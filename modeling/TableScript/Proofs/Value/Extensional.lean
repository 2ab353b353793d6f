import TableScript.Proofs.Value.Equality

set_option autoImplicit false

namespace TableScript

theorem Value.isHashable_of_equal (v w : Value) (h : v.equal w = true) :
    v.isHashable = w.isHashable := by
  cases v <;> cases w <;> simp_all [equal, isHashable, sameNumber, number?]

theorem Value.ofKey_injective : Function.Injective ofKey := by
  intro k l same
  have keys := congrArg key? same
  rwa [key?_ofKey, key?_ofKey, Option.some.injEq] at keys

theorem Value.equal_dicts_iff (d e : Dict Value) :
    (Value.dict d).equal (.dict e) = true ↔ d.size = e.size ∧
      ∀ entry ∈ d.entries, ∃ w, e.find? entry.1 = some w ∧ entry.2.equal w = true := by
  simp [equal_dict_iff]

def Key.Alias (k l : Key) : Prop := k = l ∨ k.same l = true

theorem Key.Alias.same_eq {k l : Key} (h : Alias k l) (m : Key) : k.same m = l.same m := by
  rcases h with rfl | same
  next => rfl
  next => rw [same_comm k m, same_comm l m, same_congr k l m same]

def Respelled (cs es : List (Key × Value)) : Prop :=
  List.Forall₂ (fun c e => Key.Alias c.1 e.1 ∧ c.2 = e.2) cs es

namespace Insertion

def key : Insertion → Value
  | .entry key _ => key
  | .named name _ => .str name

def value : Insertion → Value
  | .entry _ value => value
  | .named _ value => value

def pair? (request : Insertion) : Option (Key × Value) :=
  request.key.key?.map fun k => (k, request.value)

theorem onDict_snd (d : Dict Value) (request : Insertion) :
    (request.onDict d).2 = request.pair?.elim d fun entry => d.insert entry.1 entry.2 := by
  cases request with
  | entry key value =>
    cases known : key.key? <;>
      simp [onDict, Value.insertEntry, attempt, pair?, Insertion.key, Insertion.value, known]
  | named name value => rfl

theorem run_onDict_snd (d : Dict Value) (requests : List Insertion) :
    (run onDict d requests).2 =
      (requests.filterMap pair?).foldl (fun d entry => d.insert entry.1 entry.2) d := by
  induction requests generalizing d with
  | nil => rfl
  | cons request rest ih =>
    simp only [run, ih, onDict_snd]
    cases known : request.pair? <;> simp [known]

theorem pair?_eq_some_iff (request : Insertion) (entry : Key × Value) :
    request.pair? = some entry ↔ request.key = Value.ofKey entry.1 ∧ request.value = entry.2 := by
  rw [pair?, Option.map_eq_some_iff]
  constructor
  next =>
    rintro ⟨k, known, rfl⟩
    exact ⟨(Value.ofKey_of_key? request.key k known).symm, rfl⟩
  next =>
    rintro ⟨key, value⟩
    exact ⟨entry.1, by rw [key, Value.key?_ofKey], by rw [value]⟩

/-- The same requests in another order, some of them under another key that is equal to theirs. -/
def Rearranged (ps qs : List Insertion) : Prop :=
  ∃ rs : List Insertion, ps.Perm rs ∧ List.Forall₂ (fun r q =>
    (r.key = q.key ∨ r.key.equal q.key = true) ∧ r.value = q.value) rs qs

theorem rel_pair? (r q : Insertion) (key : r.key = q.key ∨ r.key.equal q.key = true)
    (value : r.value = q.value) :
    Option.Rel (fun c e : Key × Value => Key.Alias c.1 e.1 ∧ c.2 = e.2) r.pair? q.pair? := by
  unfold pair?
  rcases key with same | equal
  next =>
    rw [same, value]
    cases q.key.key? with
    | none => exact .none
    | some k => exact .some ⟨.inl rfl, rfl⟩
  next =>
    cases hashable : r.key.isHashable with
    | true =>
      obtain ⟨k, -, spelled⟩ := Value.key?_of_isHashable r.key hashable
      obtain ⟨l, spelled', same⟩ := (Value.equal_ofKey_iff k q.key).mp (spelled ▸ equal)
      rw [spelled, spelled', Value.key?_ofKey, Value.key?_ofKey]
      exact .some ⟨.inr same, value⟩
    | false =>
      have refused := Value.isHashable_of_equal r.key q.key equal
      rw [Value.key?_of_not_isHashable r.key hashable,
        Value.key?_of_not_isHashable q.key (refused ▸ hashable)]
      exact .none

end Insertion

namespace Dict

def ofInsertions (requests : List Insertion) : Dict Value :=
  (Insertion.run Insertion.onDict empty requests).2

def HoldsNanKey (d : Dict Value) : Prop := ∃ entry ∈ d.entries, entry.1 = .real .nan

def AgreeAt (d e : Dict Value) (key : Value) : Prop :=
  Value.findEntry d key = .ok none ∧ Value.findEntry e key = .ok none ∨
    ∃ v w, Value.findEntry d key = .ok (some v) ∧ Value.findEntry e key = .ok (some w) ∧
      v.equal w = true

theorem agreeAt_ofKey_iff (d e : Dict Value) (k : Key) :
    AgreeAt d e (Value.ofKey k) ↔ d.find? k = none ∧ e.find? k = none ∨
      ∃ v w, d.find? k = some v ∧ e.find? k = some w ∧ v.equal w = true := by
  simp [AgreeAt, Value.findEntry]

theorem built_ofInsertions (requests : List Insertion)
    (built : ∀ request ∈ requests, request.value.Built) :
    (Value.dict (ofInsertions requests)).Built := by
  rw [ofInsertions, Insertion.run_onDict_snd]
  refine List.foldlRecOn (motive := fun d => (Value.dict d).Built) _ _ .empty ?_
  intro d before entry member
  obtain ⟨request, inside, known⟩ := List.mem_filterMap.mp member
  obtain ⟨-, value⟩ := (request.pair?_eq_some_iff entry).mp known
  exact .insert d entry.1 entry.2 before (value ▸ built request inside)

section Extensional

variable {d e : Dict Value}

theorem find?_of_equal (left : (Value.dict d).Built) (right : (Value.dict e).Built)
    (equal : (Value.dict d).equal (.dict e) = true) (k : Key) (v : Value) (h : d.find? k = some v) :
    ∃ w, e.find? k = some w ∧ v.equal w = true := by
  obtain ⟨entry, member, same, rfl⟩ := exists_of_find? d left.dict_facts.1 k v h
  obtain ⟨-, found⟩ := (Value.equal_dicts_iff d e).mp equal
  obtain ⟨w, there, values⟩ := found entry member
  exact ⟨w, find?_congr e right.dict_facts.1 entry.1 k same ▸ there, values⟩

theorem not_holdsNanKey_of_equal (right : (Value.dict e).Built)
    (equal : (Value.dict d).equal (.dict e) = true) : ¬ d.HoldsNanKey := by
  rintro ⟨entry, member, nan⟩
  obtain ⟨-, found⟩ := (Value.equal_dicts_iff d e).mp equal
  obtain ⟨w, there, -⟩ := found entry member
  obtain ⟨other, -, same, -⟩ := exists_of_find? e right.dict_facts.1 entry.1 w there
  -- a key that is found is the same as some key, and a `nan` is the same as none
  have self := Key.same_trans entry.1 other.1 entry.1 (Key.same_symm _ _ same) same
  exact (Key.same_self_iff entry.1).mp self nan

theorem agreeAt_of_equal (left : (Value.dict d).Built) (right : (Value.dict e).Built)
    (equal : (Value.dict d).equal (.dict e) = true) (k : Key) : AgreeAt d e (Value.ofKey k) := by
  rw [agreeAt_ofKey_iff]
  cases here : d.find? k with
  | some v =>
    obtain ⟨w, there, values⟩ := find?_of_equal left right equal k v here
    exact .inr ⟨v, w, rfl, there, values⟩
  | none =>
    refine .inl ⟨rfl, ?_⟩
    cases there : e.find? k with
    | none => rfl
    | some w =>
      have symmetric := Value.equal_symm _ _ left right equal
      obtain ⟨v, found, -⟩ := find?_of_equal right left symmetric k w there
      cases here.symm.trans found

theorem find?_entry (built : (Value.dict d).Built) (clean : ¬ d.HoldsNanKey) (entry : Key × Value)
    (member : entry ∈ d.entries) : d.find? entry.1 = some entry.2 := by
  obtain ⟨indexed, distinct, -⟩ := built.dict_facts
  have self := (Key.same_self_iff entry.1).mpr fun nan => clean ⟨entry, member, nan⟩
  exact find?_of_mem d indexed distinct entry.1 entry member self

theorem size_le_of_found (left : (Value.dict d).Built) (right : (Value.dict e).Built)
    (clean : ¬ d.HoldsNanKey) (found : ∀ k, d.find? k ≠ none → e.find? k ≠ none) :
    d.size ≤ e.size := by
  have partners : ∀ k ∈ keys d.entries, entryOf? k e.entries ≠ none := by
    intro k here missing
    obtain ⟨entry, member, rfl⟩ := List.mem_map.mp here
    refine found entry.1 ?_ ?_
    next => simp [find?_entry left clean entry member]
    next => rw [find?_eq_scan? e right.dict_facts.1, scan?, missing, Option.map_none]
  have few := (partners_subperm d.entries e.entries left.dict_facts.2.1 partners).length_le
  simpa [keys, size] using few

theorem equal_of_agreeAt (left : (Value.dict d).Built) (right : (Value.dict e).Built)
    (clean : ¬ d.HoldsNanKey) (clean' : ¬ e.HoldsNanKey)
    (agree : ∀ k, AgreeAt d e (Value.ofKey k)) : (Value.dict d).equal (.dict e) = true := by
  simp only [agreeAt_ofKey_iff] at agree
  rw [Value.equal_dicts_iff]
  constructor
  next =>
    -- each dictionary has a key of the other for each of its own
    apply Nat.le_antisymm
    next =>
      refine size_le_of_found left right clean fun k here => ?_
      rcases agree k with ⟨missing, -⟩ | ⟨v, w, -, there, -⟩
      next => exact absurd missing here
      next => simp [there]
    next =>
      refine size_le_of_found right left clean' fun k there => ?_
      rcases agree k with ⟨-, missing⟩ | ⟨v, w, here, -, -⟩
      next => exact absurd missing there
      next => simp [here]
  next =>
    intro entry member
    have here := find?_entry left clean entry member
    rcases agree entry.1 with ⟨missing, -⟩ | ⟨v, w, found, there, values⟩
    next => cases missing.symm.trans here
    next =>
      cases found.symm.trans here
      exact ⟨w, there, values⟩

theorem equal_iff_agreeAt (left : (Value.dict d).Built) (right : (Value.dict e).Built) :
    (Value.dict d).equal (.dict e) = true ↔ ¬ d.HoldsNanKey ∧ ¬ e.HoldsNanKey ∧
      ∀ key : Value, key.isHashable = true → AgreeAt d e key := by
  constructor
  next =>
    intro equal
    refine ⟨not_holdsNanKey_of_equal right equal,
      not_holdsNanKey_of_equal left (Value.equal_symm _ _ left right equal), ?_⟩
    intro key hashable
    obtain ⟨k, -, rfl⟩ := Value.key?_of_isHashable key hashable
    exact agreeAt_of_equal left right equal k
  next =>
    rintro ⟨clean, clean', agree⟩
    exact equal_of_agreeAt left right clean clean' fun k => agree _ (Value.isHashable_ofKey k)

end Extensional

section Rearranged

variable {cs ds es : List (Key × Value)}

theorem exists_alias (spelled : Respelled cs es) (entry : Key × Value) (member : entry ∈ cs) :
    ∃ other ∈ es, Key.Alias entry.1 other.1 ∧ entry.2 = other.2 := by
  obtain ⟨size, matched⟩ := List.forall₂_iff_get.mp spelled
  obtain ⟨i, bound, rfl⟩ := List.getElem_of_mem member
  have bound' : i < es.length := size ▸ bound
  exact ⟨es[i], List.getElem_mem bound', matched i bound bound'⟩

theorem distinct_of_respelled (spelled : Respelled cs es) (distinct : Distinct cs) : Distinct es := by
  obtain ⟨size, matched⟩ := List.forall₂_iff_get.mp spelled
  rw [Distinct, keys, List.pairwise_map, List.pairwise_iff_getElem] at distinct ⊢
  intro i j first second before
  have apart := distinct i j (size ▸ first) (size ▸ second) before
  have one := (matched i (size ▸ first) first).1
  have two := (matched j (size ▸ second) second).1
  rw [List.get_eq_getElem, List.get_eq_getElem] at one two
  rwa [one.same_eq, Key.same_comm, two.same_eq, Key.same_comm] at apart

theorem distinct_of_perm (perm : ds.Perm cs) (distinct : Distinct ds) : Distinct cs := by
  have named : (keys ds).Perm (keys cs) := perm.map _
  refine named.pairwise distinct ?_
  intro k l apart
  rwa [Key.same_comm]

theorem entries_ofInsertions (requests : List Insertion)
    (distinct : Distinct (requests.filterMap Insertion.pair?)) :
    (ofInsertions requests).entries = requests.filterMap Insertion.pair? := by
  rw [ofInsertions, Insertion.run_onDict_snd]
  exact entries_ofEntries _ distinct

theorem distinct_of_unequal (requests : List Insertion)
    (apart : requests.Pairwise fun p q => p.key.equal q.key = false) :
    Distinct (requests.filterMap Insertion.pair?) := by
  rw [Distinct, keys, List.pairwise_map, List.pairwise_filterMap]
  refine apart.imp ?_
  intro p q unequal entry known other known'
  rwa [((p.pair?_eq_some_iff entry).mp known).1, ((q.pair?_eq_some_iff other).mp known').1,
    Value.equal_ofKey] at unequal

theorem equal_rearranged_iff_clean (d e : Dict Value) (left : (Value.dict d).Built)
    (right : (Value.dict e).Built) (perm : d.entries.Perm cs) (spelled : Respelled cs e.entries) :
    (Value.dict d).equal (.dict e) = true ↔
      ∀ entry ∈ d.entries, entry.1 ≠ .real .nan ∧ ¬ entry.2.HoldsNan := by
  obtain ⟨-, -, parts⟩ := left.dict_facts
  obtain ⟨indexed, distinct, -⟩ := right.dict_facts
  have found (entry : Key × Value) (member : entry ∈ d.entries) (key : entry.1 ≠ .real .nan) :
      e.find? entry.1 = some entry.2 := by
    obtain ⟨other, there, spelling, value⟩ := exists_alias spelled entry (perm.mem_iff.mp member)
    have self := (Key.same_self_iff entry.1).mpr key
    rw [spelling.same_eq] at self
    rw [value, find?_of_mem e indexed distinct entry.1 other there self]
  constructor
  next =>
    intro equal entry member
    have key : entry.1 ≠ .real .nan := fun nan =>
      not_holdsNanKey_of_equal right equal ⟨entry, member, nan⟩
    obtain ⟨-, pairs⟩ := (Value.equal_dicts_iff d e).mp equal
    obtain ⟨w, there, values⟩ := pairs entry member
    cases there.symm.trans (found entry member key)
    exact ⟨key, (Value.equal_self_iff entry.2 (parts entry member)).mp values⟩
  next =>
    intro clean
    refine (Value.equal_dicts_iff d e).mpr ⟨perm.length_eq.trans spelled.length_eq, ?_⟩
    intro entry member
    obtain ⟨key, value⟩ := clean entry member
    exact ⟨entry.2, found entry member key,
      (Value.equal_self_iff entry.2 (parts entry member)).mpr value⟩

theorem equal_rearranged_iff (ps qs : List Insertion) (built : ∀ p ∈ ps, p.value.Built)
    (built' : ∀ q ∈ qs, q.value.Built) (apart : ps.Pairwise fun p q => p.key.equal q.key = false)
    (same : Insertion.Rearranged ps qs) :
    (Value.dict (ofInsertions ps)).equal (.dict (ofInsertions qs)) = true ↔
      ∀ p ∈ ps, p.key.isHashable = true → p.key ≠ .real .nan ∧ ¬ p.value.HoldsNan := by
  obtain ⟨rs, perm, spelled⟩ := same
  replace perm := perm.filterMap Insertion.pair?
  replace spelled : Respelled (rs.filterMap Insertion.pair?) (qs.filterMap Insertion.pair?) :=
    List.rel_filterMap (fun r q alike => Insertion.rel_pair? r q alike.1 alike.2) spelled
  have distinct := distinct_of_unequal ps apart
  have entries := entries_ofInsertions ps distinct
  rw [← entries_ofInsertions qs (distinct_of_respelled spelled (distinct_of_perm perm distinct))]
    at spelled
  rw [← entries] at perm
  rw [equal_rearranged_iff_clean _ _ (built_ofInsertions ps built) (built_ofInsertions qs built')
    perm spelled, entries]
  -- the entries are those of the requests whose keys are not refused
  constructor
  next =>
    intro clean p member hashable
    obtain ⟨k, -, shape⟩ := Value.key?_of_isHashable p.key hashable
    have asked := (p.pair?_eq_some_iff (k, p.value)).mpr ⟨shape, rfl⟩
    obtain ⟨key, value⟩ := clean _ (List.mem_filterMap.mpr ⟨p, member, asked⟩)
    refine ⟨fun nan => key ?_, value⟩
    exact Value.ofKey_injective (shape.symm.trans nan)
  next =>
    intro clean entry member
    obtain ⟨p, inside, asked⟩ := List.mem_filterMap.mp member
    obtain ⟨shape, value⟩ := (p.pair?_eq_some_iff entry).mp asked
    obtain ⟨key, clean⟩ := clean p inside (shape ▸ Value.isHashable_ofKey entry.1)
    refine ⟨fun nan => key ?_, value ▸ clean⟩
    rw [shape, nan, Value.ofKey]

end Rearranged

theorem equal_extensional (left right : List Insertion) (built : ∀ p ∈ left, p.value.Built)
    (built' : ∀ q ∈ right, q.value.Built) :
    let d := ofInsertions left
    let e := ofInsertions right
    ((Value.dict d).equal (.dict e) = true ↔ ¬ d.HoldsNanKey ∧ ¬ e.HoldsNanKey ∧
      ∀ key : Value, key.isHashable = true → AgreeAt d e key) ∧
    ((left.Pairwise fun p q => p.key.equal q.key = false) → Insertion.Rearranged left right →
      ((Value.dict d).equal (.dict e) = true ↔
        ∀ p ∈ left, p.key.isHashable = true → p.key ≠ .real .nan ∧ ¬ p.value.HoldsNan)) :=
  ⟨equal_iff_agreeAt (built_ofInsertions left built) (built_ofInsertions right built'),
    equal_rearranged_iff left right built built'⟩

theorem equal_extensional_respelled :
    let left : List Insertion := [.entry (.int 1) (.str "one"), .named "b" (.bool false)]
    let right : List Insertion := [.named "b" (.bool false), .entry (.bool true) (.str "one")]
    ((∀ p ∈ left, p.value.Built) ∧ (∀ q ∈ right, q.value.Built) ∧
      (left.Pairwise fun p q => p.key.equal q.key = false) ∧ Insertion.Rearranged left right) ∧
    (Value.dict (ofInsertions left)).equal (.dict (ofInsertions right)) = true ∧
      AgreeAt (ofInsertions left) (ofInsertions right) (.int 1) := by
  intro left right
  have built : ∀ p ∈ left, p.value.Built :=
    List.forall_mem_cons.mpr ⟨.str "one", List.forall_mem_singleton.mpr (.bool false)⟩
  have built' : ∀ q ∈ right, q.value.Built :=
    List.forall_mem_cons.mpr ⟨.bool false, List.forall_mem_singleton.mpr (.str "one")⟩
  have apart : left.Pairwise fun p q => p.key.equal q.key = false :=
    List.pairwise_pair.mpr (Value.equal_ofKey (.int 1) (.str "b"))
  have spelling : (Value.int 1).equal (.bool true) = true :=
    (Value.equal_ofKey (.int 1) (.bool true)).trans
      ((Key.same_iff _ _).mpr ⟨.place (.ofInt 1), rfl, rfl⟩)
  have same : Insertion.Rearranged left right :=
    ⟨_, .swap _ _ _, .cons ⟨.inl rfl, rfl⟩ (.cons ⟨.inr spelling, rfl⟩ .nil)⟩
  have clean : ∀ p ∈ left, p.key.isHashable = true → p.key ≠ .real .nan ∧ ¬ p.value.HoldsNan := by
    refine List.forall_mem_cons.mpr ⟨fun _ => ⟨by simp [Insertion.key], ?_⟩,
      List.forall_mem_singleton.mpr fun _ => ⟨by simp [Insertion.key], ?_⟩⟩
    next => exact (Value.holdsNan_ofKey_iff (.str "one")).not.mpr (by simp)
    next => exact (Value.holdsNan_ofKey_iff (.bool false)).not.mpr (by simp)
  obtain ⟨agree, rearranged⟩ := equal_extensional left right built built'
  have equal := (rearranged apart same).mpr clean
  exact ⟨⟨built, built', apart, same⟩, equal, (agree.mp equal).2.2 _ rfl⟩

-- A value that is not equal to itself sets apart dictionaries made of the very same pairs.
theorem nan_value_unequal :
    let pairs : List Insertion := [.entry (.int 1) (.real .nan)]
    (pairs.Pairwise fun p q => p.key.equal q.key = false) ∧ Insertion.Rearranged pairs pairs ∧
      ¬ (ofInsertions pairs).HoldsNanKey ∧
      (Value.dict (ofInsertions pairs)).equal (.dict (ofInsertions pairs)) = false := by
  intro pairs
  have built : ∀ p ∈ pairs, p.value.Built := List.forall_mem_singleton.mpr (.real .nan)
  have apart : pairs.Pairwise fun p q => p.key.equal q.key = false := List.pairwise_singleton _ _
  have same : Insertion.Rearranged pairs pairs := ⟨_, .refl _, .cons ⟨.inl rfl, rfl⟩ .nil⟩
  refine ⟨apart, same, ?_, ?_⟩
  next =>
    rintro ⟨entry, member, nan⟩
    rw [entries_ofInsertions pairs (distinct_of_unequal pairs apart)] at member
    cases List.mem_singleton.mp member
    cases nan
  next =>
    rw [Bool.eq_false_iff]
    intro equal
    have clean := (equal_rearranged_iff pairs pairs built built apart same).mp equal
    exact (clean _ (List.mem_singleton_self _) rfl).2 .here

end Dict

end TableScript
