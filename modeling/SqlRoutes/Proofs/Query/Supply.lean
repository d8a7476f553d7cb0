import Mathlib.Data.List.Perm.Basic
import SqlRoutes.Query.Basic

/-!
Values for the parameters of a statement. `Settles` says what becomes of a statement and the values
it is given, and `bind_settles` that arranging the values comes to just that. All that counts in the
values is which names of the statement have one, and which it is.
-/
namespace SqlRoutes

/-- The members of `names`, each once, in the order in which they first come up. -/
structure Firsts (names found : List String) : Prop where
  nodup : found.Nodup
  members : ∀ name, name ∈ found ↔ name ∈ names
  ordered : found.Pairwise fun first second => names.idxOf first < names.idxOf second

section Distinct

variable {names first second found : List String}

theorem Firsts.unique (one : Firsts names first) (other : Firsts names second) :
    first = second := by
  have same : first.Perm second := (List.perm_ext_iff_of_nodup one.nodup other.nodup).2
    fun name => (one.members name).trans (other.members name).symm
  refine same.eq_of_pairwise (fun a b _ _ before behind => ?_) one.ordered other.ordered
  exact absurd before (Nat.lt_asymm behind)

theorem mem_distinct {name : String} : name ∈ distinct names ↔ name ∈ names := by
  induction names with
  | nil => rfl
  | cons other names ih =>
    by_cases same : name = other
    · simp [distinct, same]
    · simp [distinct, same, ih]

theorem nodup_distinct (names : List String) : (distinct names).Nodup := by
  induction names with
  | nil => exact List.nodup_nil
  | cons name names ih =>
    refine List.nodup_cons.2 ⟨?_, ih.filter _⟩
    simp

theorem ordered_distinct (names : List String) :
    (distinct names).Pairwise fun first second => names.idxOf first < names.idxOf second := by
  induction names with
  | nil => exact List.Pairwise.nil
  | cons name names ih =>
    have further {other : String} (member : other ∈ (distinct names).filter (· ≠ name)) :
        (name :: names).idxOf other = names.idxOf other + 1 := by
      have different : other ≠ name := by simpa using (List.mem_filter.1 member).2
      exact List.idxOf_cons_ne names different.symm
    refine List.pairwise_cons.2 ⟨?_, (ih.filter _).imp_of_mem ?_⟩
    · intro other member
      rw [List.idxOf_cons_self, further member]
      exact Nat.succ_pos _
    · intro first second firstMember secondMember before
      rw [further firstMember, further secondMember]
      exact Nat.succ_lt_succ before

theorem firsts_iff : Firsts names found ↔ found = distinct names := by
  have own : Firsts names (distinct names) :=
    ⟨nodup_distinct names, fun _ => mem_distinct, ordered_distinct names⟩
  constructor
  · exact fun firsts => firsts.unique own
  · rintro rfl
    exact own

theorem distinct_filter (p : String → Bool) (names : List String) :
    distinct (names.filter p) = (distinct names).filter p := by
  induction names with
  | nil => rfl
  | cons name names ih =>
    cases kept : p name with
    | true =>
      rw [List.filter_cons_of_pos kept, distinct, distinct, List.filter_cons_of_pos kept, ih,
        List.filter_comm]
    | false =>
      -- All that differ from a name that is left out are those that are left in.
      have left : ((distinct names).filter (· ≠ name)).filter p = (distinct names).filter p := by
        rw [List.filter_filter]
        refine List.filter_congr fun other _ => ?_
        by_cases same : other = name
        · simp [same, kept]
        · simp [same]
      rw [List.filter_cons_of_neg (by simp [kept]), distinct,
        List.filter_cons_of_neg (by simp [kept]), left, ih]

end Distinct

namespace Query

section Values

variable {α : Type} {value? : String → Option α} {names : List String}

theorem getElem?_filterMap_of_present (present : ∀ name ∈ names, (value? name).isSome)
    (place : Nat) : (names.filterMap value?)[place]? = names[place]?.bind value? := by
  induction names generalizing place with
  | nil => rfl
  | cons name names ih =>
    obtain ⟨first, others⟩ := List.forall_mem_cons.1 present
    obtain ⟨value, known⟩ := Option.isSome_iff_exists.1 first
    rw [List.filterMap_cons_some known]
    cases place with
    | zero => exact known.symm
    | succ place => exact ih others place

theorem length_filterMap_of_present (present : ∀ name ∈ names, (value? name).isSome) :
    (names.filterMap value?).length = names.length := by
  induction names with
  | nil => rfl
  | cons name names ih =>
    obtain ⟨first, others⟩ := List.forall_mem_cons.1 present
    obtain ⟨value, known⟩ := Option.isSome_iff_exists.1 first
    rw [List.filterMap_cons_some known, List.length_cons, List.length_cons, ih others]

theorem lookup_filterMap_of_mem {name : String} {value : α} (member : name ∈ names)
    (known : value? name = some value) :
    (names.filterMap fun other => (value? other).map (other, ·)).lookup name = some value := by
  induction names with
  | nil => cases member
  | cons other names ih =>
    by_cases same : name = other
    · subst same
      simp [known]
    · have later := ih ((List.mem_cons.1 member).resolve_left same)
      cases found : value? other with
      | some value => simp [found, List.lookup_cons, beq_false_of_ne same, later]
      | none => simp [found, later]

theorem map_fst_pairs (present : ∀ name ∈ names, (value? name).isSome) :
    (names.filterMap fun name => (value? name).map (name, ·)).map (·.1) = names := by
  induction names with
  | nil => rfl
  | cons name names ih =>
    obtain ⟨first, others⟩ := List.forall_mem_cons.1 present
    obtain ⟨value, known⟩ := Option.isSome_iff_exists.1 first
    rw [List.filterMap_cons_some (by rw [known]; rfl), List.map_cons, ih others]

theorem pairs_eq_filterMap {pairs : List (String × α)}
    (values : ∀ pair ∈ pairs, value? pair.1 = some pair.2) :
    pairs = (pairs.map (·.1)).filterMap fun name => (value? name).map (name, ·) := by
  induction pairs with
  | nil => rfl
  | cons pair pairs ih =>
    obtain ⟨first, others⟩ := List.forall_mem_cons.1 values
    rw [List.map_cons, List.filterMap_cons_some (by rw [first]; rfl), ← ih others]

theorem values_eq_filterMap {values : List α}
    (present : ∀ name ∈ names, (value? name).isSome) (length : values.length = names.length)
    (each : ∀ (i : Nat) (name : String), names[i]? = some name → values[i]? = value? name) :
    values = names.filterMap value? := by
  apply List.ext_getElem?
  intro i
  rw [getElem?_filterMap_of_present present]
  cases listed : names[i]? with
  | some name => exact each i name listed
  | none =>
    rw [List.getElem?_eq_none_iff] at listed
    exact List.getElem?_eq_none (by omega)

end Values

variable {α : Type} {query : Query} {value? : String → Option α}

/-- What becomes of a statement and the values by name: the names that have none are reported, each
once, or else the values are arranged by name or by occurrence. -/
inductive Settles (query : Query) (value? : String → Option α) :
    Except MissingParameters (Bound α) → Prop where
  | missing {names : List String} (absent : ∃ name ∈ query.parameters, value? name = none)
      (each : Firsts (query.parameters.filter fun name => (value? name).isNone) names) :
      Settles query value? (.error ⟨names, query.prepared⟩)
  | named {pairs : List (String × α)}
      (present : ∀ name ∈ query.parameters, (value? name).isSome)
      (kept : query.placeholder.keepsNames = true)
      (keys : Firsts query.parameters (pairs.map (·.1)))
      (values : ∀ pair ∈ pairs, value? pair.1 = some pair.2) :
      Settles query value? (.ok (.named pairs))
  | positional {values : List α}
      (present : ∀ name ∈ query.parameters, (value? name).isSome)
      (replaced : query.placeholder.keepsNames = false)
      (length : values.length = query.parameters.length)
      (each : ∀ (i : Nat) (name : String), query.parameters[i]? = some name →
        values[i]? = value? name) :
      Settles query value? (.ok (.positional values))

theorem bind_of_absent (absent : ∃ name ∈ query.parameters, value? name = none) :
    query.bind value? = .error
      ⟨distinct (query.parameters.filter fun name => (value? name).isNone), query.prepared⟩ := by
  obtain ⟨name, member, none⟩ := absent
  have listed : name ∈ query.parameterNames.filter fun name => (value? name).isNone :=
    List.mem_filter.2 ⟨mem_distinct.2 member, by rw [none]; rfl⟩
  have some : (query.parameterNames.filter fun name => (value? name).isNone).isEmpty = false :=
    List.isEmpty_eq_false_iff.2 (List.ne_nil_of_mem listed)
  rw [bind]
  simp only [some, Bool.false_eq_true, ↓reduceIte]
  rw [distinct_filter, parameterNames]

theorem bind_of_present (present : ∀ name ∈ query.parameters, (value? name).isSome) :
    query.bind value? = .ok
      (if query.placeholder.keepsNames then
        .named (query.parameterNames.filterMap fun name => (value? name).map (name, ·))
      else .positional (query.parameters.filterMap value?)) := by
  have none : query.parameterNames.filter (fun name => (value? name).isNone) = [] := by
    refine List.filter_eq_nil_iff.2 fun name member => ?_
    obtain ⟨value, known⟩ := Option.isSome_iff_exists.1 (present name (mem_distinct.1 member))
    simp [known]
  rw [bind]
  simp only [none, List.isEmpty_nil, ↓reduceIte]
  split <;> rfl

theorem isSome_of_not_absent (given : ¬∃ name ∈ query.parameters, value? name = none) :
    ∀ name ∈ query.parameters, (value? name).isSome := by
  intro name member
  rw [← Option.ne_none_iff_isSome]
  exact fun none => given ⟨name, member, none⟩

theorem exists_bind_iff : (∃ bound, query.bind value? = .ok bound) ↔
    ∀ name ∈ query.parameters, (value? name).isSome := by
  constructor
  · rintro ⟨bound, arranged⟩
    refine isSome_of_not_absent fun absent => ?_
    rw [bind_of_absent absent] at arranged
    cases arranged
  · exact fun present => ⟨_, bind_of_present present⟩

theorem settles_bind (query : Query) (value? : String → Option α) :
    Settles query value? (query.bind value?) := by
  by_cases absent : ∃ name ∈ query.parameters, value? name = none
  · rw [bind_of_absent absent]
    exact .missing absent (firsts_iff.2 rfl)
  · have present := isSome_of_not_absent absent
    have presentNames : ∀ name ∈ query.parameterNames, (value? name).isSome :=
      fun name member => present name (mem_distinct.1 member)
    rw [bind_of_present present]
    cases kept : query.placeholder.keepsNames with
    | true =>
      refine .named present kept (firsts_iff.2 (map_fst_pairs presentNames)) ?_
      intro pair member
      obtain ⟨name, -, same⟩ := List.mem_filterMap.1 member
      obtain ⟨value, known, rfl⟩ := Option.map_eq_some_iff.1 same
      exact known
    | false =>
      refine .positional present kept (length_filterMap_of_present present) ?_
      intro i name listed
      rw [getElem?_filterMap_of_present present, listed, Option.bind_some]

theorem bind_eq_of_settles {outcome : Except MissingParameters (Bound α)}
    (settles : Settles query value? outcome) : query.bind value? = outcome := by
  cases settles with
  | missing absent each => rw [bind_of_absent absent, firsts_iff.1 each]
  | named present kept keys values =>
    rw [bind_of_present present, if_pos kept, parameterNames, ← firsts_iff.1 keys,
      ← pairs_eq_filterMap values]
  | positional present replaced length each =>
    rw [bind_of_present present, replaced, ← values_eq_filterMap present length each]
    rfl

theorem bind_congr {other : String → Option α}
    (agree : ∀ name ∈ query.parameters, other name = value? name) :
    query.bind other = query.bind value? := by
  have agreeNames : ∀ name ∈ query.parameterNames, other name = value? name :=
    fun name member => agree name (mem_distinct.1 member)
  have missing : query.parameterNames.filter (fun name => (other name).isNone) =
      query.parameterNames.filter fun name => (value? name).isNone :=
    List.filter_congr fun name member => by rw [agreeNames name member]
  have pairs : query.parameterNames.filterMap (fun name => (other name).map (name, ·)) =
      query.parameterNames.filterMap fun name => (value? name).map (name, ·) :=
    List.filterMap_congr fun name member => by rw [agreeNames name member]
  simp only [bind, missing, pairs, List.filterMap_congr agree]

/-- Arranging values comes to what is said of it, and to nothing else. It fails just when a name of
the statement has no value, and names that the statement does not have make no difference. -/
theorem bind_settles {α : Type} (query : Query) (value? : String → Option α) :
    (∀ outcome, query.bind value? = outcome ↔ Settles query value? outcome) ∧
    ((∃ e, query.bind value? = .error e) ↔ ∃ name ∈ query.parameters, value? name = none) ∧
    ∀ other : String → Option α, (∀ name ∈ query.parameters, other name = value? name) →
      query.bind other = query.bind value? := by
  refine ⟨fun outcome => ⟨?_, bind_eq_of_settles⟩, ⟨?_, ?_⟩, fun other => bind_congr⟩
  · rintro rfl
    exact settles_bind query value?
  · rintro ⟨e, failed⟩
    have settles := settles_bind query value?
    rw [failed] at settles
    cases settles with
    | missing absent => exact absent
  · exact fun absent => ⟨_, bind_of_absent absent⟩

theorem bind_settles_twice :
    let names := ["b", "a", "b", "c"]
    let some : List (String × Nat) := [("d", 4), ("a", 1)]
    let all : List (String × Nat) := [("c", 3), ("a", 1), ("b", 2)]
    (⟨"", "", "?,?,?,?", names, ⟨.simple, '?'⟩⟩ : Query).bind (some.lookup ·) =
        .error ⟨["b", "c"], "?,?,?,?"⟩ ∧
      (⟨"", "", "?,?,?,?", names, ⟨.simple, '?'⟩⟩ : Query).bind (all.lookup ·) =
        .ok (.positional [2, 1, 2, 3]) ∧
      (⟨"", "", ":b,:a,:b,:c", names, ⟨.numbered, ':'⟩⟩ : Query).bind (all.lookup ·) =
        .ok (.named [("b", 2), ("a", 1), ("c", 3)]) := by
  intro names some all
  refine ⟨?_, ?_, ?_⟩
  · exact ((bind_settles _ _).1 _).2 (.missing ⟨"b", by decide, rfl⟩ (firsts_iff.2 rfl))
  · refine ((bind_settles _ _).1 _).2 (.positional (by decide) rfl rfl fun i name listed => ?_)
    have inside := (List.getElem?_eq_some_iff.1 listed).1
    match i, inside with
    | 0, _ | 1, _ | 2, _ | 3, _ => cases listed; rfl
  · exact ((bind_settles _ _).1 _).2 (.named (by decide) rfl (firsts_iff.2 rfl) (by decide))

end Query

end SqlRoutes
