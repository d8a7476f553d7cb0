import SqlRoutes.Value.Basic

namespace SqlRoutes.Log

abbrev Level := Int

def Level.debug : Level := 10
def Level.info : Level := 20
def Level.warning : Level := 30
def Level.error : Level := 40
def Level.critical : Level := 50

def levelNames : List (Level × String) :=
  [(0, "NOTSET"), (10, "DEBUG"), (20, "INFO"), (30, "WARNING"), (40, "ERROR"), (50, "CRITICAL")]

def Level.name (level : Level) : String := (levelNames.lookup level).getD s!"Level {level}"

structure Record where
  level : Level
  logger : String
  message : String
  fields : Option (List (Value × Value))

def Record.parts : List String := ["logger", "level", "message"]

structure Clash where
  part : String
  deriving DecidableEq, Repr

def Clash.message (e : Clash) : String :=
  s!"log_with_context() got multiple values for argument '{e.part}'"

/-- A record with fields, which are not to be named like its parts. -/
def Record.make (logger : String) (level : Level) (message : String)
    (fields : List (Value × Value)) : Except Clash Record :=
  match fields.findSome? fun field => Record.parts.find? fun part => field.1.same (.text part) with
  | some part => .error ⟨part⟩
  | none => .ok ⟨level, logger, message, some fields⟩

structure Traced (ε α : Type) where
  records : List Record
  outcome : Except ε α

namespace Traced

variable {ε ε' α β : Type}

protected def pure (a : α) : Traced ε α := ⟨[], .ok a⟩

protected def bind (x : Traced ε α) (f : α → Traced ε β) : Traced ε β :=
  match x.outcome with
  | .ok a => ⟨x.records ++ (f a).records, (f a).outcome⟩
  | .error e => ⟨x.records, .error e⟩

instance : Monad (Traced ε) where
  pure := Traced.pure
  bind := Traced.bind

def log (record : Record) : Traced ε Unit := ⟨[record], .ok ()⟩

def fail (e : ε) : Traced ε α := ⟨[], .error e⟩

def ofExcept (outcome : Except ε α) : Traced ε α := ⟨[], outcome⟩

def mapError (f : ε → ε') (x : Traced ε α) : Traced ε' α := ⟨x.records, x.outcome.mapError f⟩

def recordsFrom (level : Level) (x : Traced ε α) : List Record :=
  x.records.filter fun record => level ≤ record.level

end Traced

end SqlRoutes.Log
