import Mathlib.Data.List.Forall2
import Mathlib.Data.List.Perm.Subperm
import TableScript.Proofs.Value.Pairs

set_option autoImplicit false

namespace TableScript

namespace Dict

variable {α : Type}

-- Different keys have different partners.
theorem partners_subperm (ds es : List (Key × α)) (distinct : Distinct ds)
    (found : ∀ k ∈ keys ds, entryOf? k es ≠ none) :
    List.Subperm ((keys ds).map (entryOf? · es)) (es.map some) := by
  have within : (keys ds).map (entryOf? · es) ⊆ es.map some := by
    intro chosen image
    obtain ⟨k, here, rfl⟩ := List.mem_map.mp image
    obtain ⟨entry, partner⟩ := Option.ne_none_iff_exists'.mp (found k here)
    exact List.mem_map.mpr ⟨entry, (mem_of_entryOf? k es entry partner).1, partner.symm⟩
  have nodup : ((keys ds).map (entryOf? · es)).Nodup := by
    rw [List.Nodup, List.pairwise_map]
    apply List.Pairwise.imp_of_mem _ distinct
    intro k l here _ apart shared
    obtain ⟨entry, partner⟩ := Option.ne_none_iff_exists'.mp (found k here)
    have left := (mem_of_entryOf? k es entry partner).2
    have right := (mem_of_entryOf? l es entry (shared ▸ partner)).2
    have same := Key.same_trans k entry.1 l (Key.same_symm _ _ left) right
    simp [same] at apart
  exact List.subperm_of_subset nodup within

-- As many partners as there are entries are all of them.
theorem exists_partner (ds es : List (Key × α)) (distinct : Distinct ds)
    (size : ds.length = es.length) (found : ∀ k ∈ keys ds, entryOf? k es ≠ none)
    (other : Key × α) (member : other ∈ es) : ∃ k ∈ keys ds, entryOf? k es = some other := by
  have lengths : (es.map some).length ≤ ((keys ds).map (entryOf? · es)).length := by
    simp [keys, size]
  have perm := (partners_subperm ds es distinct found).perm_of_length_le lengths
  have all : some other ∈ (keys ds).map (entryOf? · es) :=
    perm.mem_iff.mpr (List.mem_map_of_mem member)
  exact List.mem_map.mp all

end Dict

namespace Value

/-- The values that come about: every dictionary in them was filled entry by entry. -/
inductive Built : Value → Prop where
  | none : Built .none
  | bool (b : Bool) : Built (.bool b)
  | int (n : Int) : Built (.int n)
  | real (x : Binary64) : Built (.real x)
  | str (s : String) : Built (.str s)
  | list (items : List Value) (parts : ∀ v ∈ items, Built v) : Built (.list items)
  | empty : Built (.dict .empty)
  | insert (d : Dict Value) (k : Key) (v : Value) (before : Built (.dict d)) (value : Built v) :
      Built (.dict (d.insert k v))

/-- A `nan` stands in the value: it is one, or one is an item, a value or a key in it. -/
inductive HoldsNan : Value → Prop where
  | here : HoldsNan (.real .nan)
  | item (items : List Value) (v : Value) (member : v ∈ items) (inside : HoldsNan v) :
      HoldsNan (.list items)
  | value (d : Dict Value) (entry : Key × Value) (member : entry ∈ d.entries)
      (inside : HoldsNan entry.2) : HoldsNan (.dict d)
  | key (d : Dict Value) (entry : Key × Value) (member : entry ∈ d.entries)
      (inside : entry.1 = .real .nan) : HoldsNan (.dict d)

theorem Built.list_parts (items : List Value) (h : Built (.list items)) : ∀ v ∈ items, Built v := by
  cases h with
  | list _ parts => exact parts

theorem Built.item (items : List Value) (h : Built (.list items)) (i : Nat)
    (inside : i < items.length) : items[i].Built :=
  h.list_parts items _ (List.getElem_mem inside)

theorem Built.dict_facts (d : Dict Value) (h : Built (.dict d)) :
    d.Indexed ∧ Dict.Distinct d.entries ∧ ∀ entry ∈ d.entries, Built entry.2 := by
  generalize shape : Value.dict d = v at h
  induction h generalizing d with
  | empty =>
    cases shape
    exact ⟨Dict.indexed_empty, List.Pairwise.nil, by simp [Dict.empty]⟩
  | insert before k v _ value ih _ =>
    cases shape
    obtain ⟨indexed, distinct, parts⟩ := ih before rfl
    refine ⟨Dict.indexed_insert before indexed k v, ?_, ?_⟩
    next =>
      rw [Dict.insert_entries before indexed]
      exact Dict.distinct_overwrite k v _ distinct
    next =>
      intro entry member
      rw [Dict.insert_entries before indexed] at member
      rcases Dict.mem_overwrite k v _ entry member with new | old
      next => exact new ▸ value
      next => exact parts entry old
  | _ => cases shape

-- Values nest through lists and through the entries of dictionaries.
@[elab_as_elim] theorem induction {motive : Value → Prop} (none : motive .none)
    (key : ∀ k, motive (ofKey k)) (list : ∀ items, (∀ v ∈ items, motive v) → motive (.list items))
    (dict : ∀ d : Dict Value, (∀ entry ∈ d.entries, motive entry.2) → motive (.dict d)) (v : Value) :
    motive v := by
  refine @Value.rec motive (fun items => ∀ v ∈ items, motive v)
    (fun d => ∀ entry ∈ d.entries, motive entry.2) (fun entries => ∀ entry ∈ entries, motive entry.2)
    (fun entry => motive entry.2) none (fun b => key (.bool b)) (fun n => key (.int n))
    (fun x => key (.real x)) (fun s => key (.str s)) list dict ?_ ?_ ?_ ?_ ?_ ?_ v
  next => exact fun v member => absurd member List.not_mem_nil
  next => exact fun _ _ first rest => List.forall_mem_cons.mpr ⟨first, rest⟩
  next => exact fun _ _ parts => parts
  next => exact fun v member => absurd member List.not_mem_nil
  next => exact fun _ _ first rest => List.forall_mem_cons.mpr ⟨first, rest⟩
  next => exact fun _ _ value => value

theorem equalItems_iff (xs ys : List Value) :
    equalItems xs ys = true ↔ xs.length = ys.length ∧
      ∀ (i : Nat) (left : i < xs.length) (right : i < ys.length), xs[i].equal ys[i] = true := by
  have pairwise : equalItems xs ys = true ↔ List.Forall₂ (fun x y => x.equal y = true) xs ys := by
    induction xs generalizing ys with
    | nil => cases ys <;> simp [equalItems]
    | cons x xs ih => cases ys <;> simp [equalItems, ih]
  rw [pairwise, List.forall₂_iff_get]
  rfl

theorem allFound_iff (entries : List (Key × Value)) (d : Dict Value) :
    allFound entries d = true ↔
      ∀ entry ∈ entries, ∃ w, d.find? entry.1 = some w ∧ entry.2.equal w = true := by
  induction entries with
  | nil => simp [allFound]
  | cons entry rest ih =>
    simp only [allFound, Bool.and_eq_true, ih, List.forall_mem_cons]
    cases d.find? entry.1 <;> simp

theorem equal_none_iff (v : Value) : equal .none v = true ↔ v = .none := by
  cases v <;> simp [equal, sameNumber, number?]

theorem equal_ofKey_iff (k : Key) (v : Value) :
    (ofKey k).equal v = true ↔ ∃ l, v = ofKey l ∧ k.same l = true := by
  constructor
  next =>
    intro h
    cases hashable : v.isHashable with
    | false => cases k <;> cases v <;> simp_all [ofKey, equal, sameNumber, number?, isHashable]
    | true =>
      obtain ⟨l, -, rfl⟩ := key?_of_isHashable v hashable
      exact ⟨l, rfl, equal_ofKey k l ▸ h⟩
  next =>
    rintro ⟨l, rfl, same⟩
    rw [equal_ofKey, same]

theorem equal_list_iff (xs : List Value) (v : Value) :
    equal (.list xs) v = true ↔ ∃ ys, v = .list ys ∧ xs.length = ys.length ∧
      ∀ (i : Nat) (left : i < xs.length) (right : i < ys.length), xs[i].equal ys[i] = true := by
  cases v <;> simp [equal, sameNumber, number?, equalItems_iff]

theorem equal_dict_iff (d : Dict Value) (v : Value) :
    equal (.dict d) v = true ↔
      ∃ e, v = .dict e ∧ d.size = e.size ∧
        ∀ entry ∈ d.entries, ∃ w, e.find? entry.1 = some w ∧ entry.2.equal w = true := by
  cases v <;> simp [equal, sameNumber, number?, allFound_iff, Dict.size]

theorem equal_symm (a b : Value) (left : a.Built) (right : b.Built) (h : a.equal b = true) :
    b.equal a = true := by
  induction a using induction generalizing b with
  | none => rw [(equal_none_iff b).mp h, equal]
  | key k =>
    obtain ⟨l, rfl, same⟩ := (equal_ofKey_iff k b).mp h
    exact (equal_ofKey_iff l _).mpr ⟨k, rfl, Key.same_symm k l same⟩
  | list xs ih =>
    obtain ⟨ys, rfl, size, items⟩ := (equal_list_iff xs b).mp h
    refine (equal_list_iff ys _).mpr ⟨xs, rfl, size.symm, ?_⟩
    intro i there here
    exact ih xs[i] (List.getElem_mem here) ys[i] (left.item xs i here) (right.item ys i there)
      (items i here there)
  | dict d ih =>
    obtain ⟨e, rfl, size, found⟩ := (equal_dict_iff d b).mp h
    obtain ⟨leftIndexed, leftDistinct, leftParts⟩ := left.dict_facts
    obtain ⟨rightIndexed, rightDistinct, rightParts⟩ := right.dict_facts
    refine (equal_dict_iff e _).mpr ⟨d, rfl, size.symm, ?_⟩
    -- every entry of the right dictionary is the partner of one of the left
    intro other member
    have present : ∀ k ∈ Dict.keys d.entries, Dict.entryOf? k e.entries ≠ Option.none := by
      intro k here missing
      obtain ⟨entry, inside, rfl⟩ := List.mem_map.mp here
      obtain ⟨w, there, -⟩ := found entry inside
      simp [Dict.find?_eq_scan? e rightIndexed, Dict.scan?, missing] at there
    obtain ⟨k, here, partner⟩ :=
      Dict.exists_partner d.entries e.entries leftDistinct size present other member
    obtain ⟨entry, inside, rfl⟩ := List.mem_map.mp here
    have same := (Dict.mem_of_entryOf? entry.1 e.entries other partner).2
    obtain ⟨w, there, equal⟩ := found entry inside
    have value : other.2 = w := by
      simpa [Dict.find?_eq_scan? e rightIndexed, Dict.scan?, partner] using there
    subst value
    exact ⟨entry.2, Dict.find?_of_mem d leftIndexed leftDistinct other.1 entry inside
      (Key.same_symm _ _ same),
      ih entry inside other.2 (leftParts entry inside) (rightParts other member) equal⟩

theorem equal_comm (a b : Value) (left : a.Built) (right : b.Built) : a.equal b = b.equal a :=
  Bool.eq_iff_iff.mpr ⟨equal_symm a b left right, equal_symm b a right left⟩

-- It makes no difference whether a value is compared with what is found for it or the other way round.
theorem equal_dict_iff_found (d e : Dict Value) (left : Built (.dict d)) (right : Built (.dict e)) :
    equal (.dict d) (.dict e) = true ↔ d.size = e.size ∧
      ∀ entry ∈ d.entries, ∃ w, e.find? entry.1 = some w ∧ w.equal entry.2 = true := by
  obtain ⟨-, -, parts⟩ := left.dict_facts
  obtain ⟨indexed, -, others⟩ := right.dict_facts
  have swapped : ∀ entry ∈ d.entries, ∀ w, e.find? entry.1 = some w →
      entry.2.equal w = w.equal entry.2 := by
    intro entry inside w found
    obtain ⟨other, member, -, rfl⟩ := Dict.exists_of_find? e indexed entry.1 w found
    exact equal_comm _ _ (parts entry inside) (others other member)
  rw [equal_dict_iff]
  constructor
  next =>
    rintro ⟨_, shape, size, found⟩
    cases shape
    refine ⟨size, fun entry inside => ?_⟩
    obtain ⟨w, there, same⟩ := found entry inside
    exact ⟨w, there, swapped entry inside w there ▸ same⟩
  next =>
    rintro ⟨size, found⟩
    refine ⟨e, rfl, size, fun entry inside => ?_⟩
    obtain ⟨w, there, same⟩ := found entry inside
    exact ⟨w, there, swapped entry inside w there ▸ same⟩

theorem equal_trans (a b c : Value) (second : b.Built) (third : c.Built) (left : a.equal b = true)
    (right : b.equal c = true) : a.equal c = true := by
  induction a using induction generalizing b c with
  | none =>
    rw [(equal_none_iff b).mp left] at right
    exact right
  | key k =>
    obtain ⟨l, rfl, same⟩ := (equal_ofKey_iff k b).mp left
    obtain ⟨m, rfl, other⟩ := (equal_ofKey_iff l c).mp right
    exact (equal_ofKey_iff k _).mpr ⟨m, rfl, Key.same_trans k l m same other⟩
  | list xs ih =>
    obtain ⟨ys, rfl, size, items⟩ := (equal_list_iff xs b).mp left
    obtain ⟨zs, rfl, size', items'⟩ := (equal_list_iff ys c).mp right
    refine (equal_list_iff xs _).mpr ⟨zs, rfl, size.trans size', ?_⟩
    intro i first last
    have middle : i < ys.length := size ▸ first
    exact ih xs[i] (List.getElem_mem first) ys[i] zs[i] (second.item ys i middle)
      (third.item zs i last) (items i first middle) (items' i middle last)
  | dict d ih =>
    obtain ⟨e, rfl, size, found⟩ := (equal_dict_iff d b).mp left
    obtain ⟨f, rfl, size', found'⟩ := (equal_dict_iff e c).mp right
    obtain ⟨eIndexed, -, eParts⟩ := second.dict_facts
    obtain ⟨fIndexed, -, fParts⟩ := third.dict_facts
    refine (equal_dict_iff d _).mpr ⟨f, rfl, size.trans size', ?_⟩
    intro entry inside
    obtain ⟨w, there, equal⟩ := found entry inside
    obtain ⟨other, member, same, rfl⟩ := Dict.exists_of_find? e eIndexed entry.1 w there
    obtain ⟨u, last, equal'⟩ := found' other member
    obtain ⟨final, member', -, rfl⟩ := Dict.exists_of_find? f fIndexed other.1 u last
    rw [Dict.find?_congr f fIndexed other.1 entry.1 same] at last
    exact ⟨final.2, last, ih entry inside other.2 final.2 (eParts other member)
      (fParts final member') equal equal'⟩

theorem holdsNan_ofKey_iff (k : Key) : (ofKey k).HoldsNan ↔ k = .real .nan := by
  constructor
  next =>
    intro h
    cases k with
    | real x => cases h; rfl
    | _ => cases h
  next =>
    rintro rfl
    exact .here

theorem holdsNan_list_iff (items : List Value) :
    HoldsNan (.list items) ↔ ∃ v ∈ items, v.HoldsNan := by
  constructor
  next =>
    rintro (_ | ⟨_, v, member, inside⟩)
    exact ⟨v, member, inside⟩
  next =>
    rintro ⟨v, member, inside⟩
    exact .item items v member inside

theorem holdsNan_dict_iff (d : Dict Value) :
    HoldsNan (.dict d) ↔ ∃ entry ∈ d.entries, entry.2.HoldsNan ∨ entry.1 = .real .nan := by
  constructor
  next =>
    rintro (_ | _ | ⟨_, entry, member, inside⟩ | ⟨_, entry, member, inside⟩)
    next => exact ⟨entry, member, .inl inside⟩
    next => exact ⟨entry, member, .inr inside⟩
  next =>
    rintro ⟨entry, member, inside | inside⟩
    next => exact .value d entry member inside
    next => exact .key d entry member inside

theorem equal_self_iff (a : Value) (h : a.Built) : a.equal a = true ↔ ¬ a.HoldsNan := by
  induction a using induction with
  | none =>
    rw [equal_none_iff]
    exact ⟨fun _ => nofun, fun _ => rfl⟩
  | key k => rw [equal_ofKey, Key.same_self_iff, holdsNan_ofKey_iff]
  | list xs ih =>
    rw [holdsNan_list_iff]
    constructor
    next =>
      rintro equal ⟨v, member, inside⟩
      obtain ⟨ys, shape, -, items⟩ := (equal_list_iff xs _).mp equal
      cases shape
      obtain ⟨i, bound, rfl⟩ := List.getElem_of_mem member
      exact (ih xs[i] member (h.item xs i bound)).mp (items i bound bound) inside
    next =>
      intro clean
      refine (equal_list_iff xs _).mpr ⟨xs, rfl, rfl, ?_⟩
      intro i bound _
      have member := List.getElem_mem bound
      exact (ih xs[i] member (h.item xs i bound)).mpr fun inside => clean ⟨xs[i], member, inside⟩
  | dict d ih =>
    obtain ⟨indexed, distinct, parts⟩ := h.dict_facts
    rw [holdsNan_dict_iff]
    constructor
    next =>
      rintro equal ⟨entry, member, inside⟩
      obtain ⟨e, shape, -, found⟩ := (equal_dict_iff d _).mp equal
      cases shape
      obtain ⟨w, there, equal⟩ := found entry member
      obtain ⟨other, -, same, -⟩ := Dict.exists_of_find? d indexed entry.1 w there
      -- a key that is found at all is the same as itself, so no entry before hides this one
      have self := Key.same_trans entry.1 other.1 entry.1 (Key.same_symm _ _ same) same
      rw [Dict.find?_of_mem d indexed distinct entry.1 entry member self] at there
      cases there
      rcases inside with value | key
      next => exact (ih entry member (parts entry member)).mp equal value
      next => exact (Key.same_self_iff entry.1).mp self key
    next =>
      intro clean
      refine (equal_dict_iff d _).mpr ⟨d, rfl, rfl, ?_⟩
      intro entry member
      have self : entry.1.same entry.1 = true :=
        (Key.same_self_iff entry.1).mpr fun key => clean ⟨entry, member, .inr key⟩
      refine ⟨entry.2, Dict.find?_of_mem d indexed distinct entry.1 entry member self, ?_⟩
      exact (ih entry member (parts entry member)).mpr fun inside =>
        clean ⟨entry, member, .inl inside⟩

def underItself (k : Key) : Value := .dict (Dict.empty.insert k (.list [ofKey k]))

theorem built_underItself (k : Key) : (underItself k).Built := by
  refine .insert _ k _ .empty (.list _ ?_)
  cases k <;> simp [ofKey] <;> constructor

theorem equal_underItself (k l : Key) (same : k.same l = true) :
    (underItself k).equal (underItself l) = true := by
  have entries (m : Key) :
      (Dict.empty.insert m (Value.list [ofKey m])).entries = [(m, .list [ofKey m])] :=
    Dict.insert_entries Dict.empty Dict.indexed_empty m _
  have indexed := Dict.indexed_insert Dict.empty Dict.indexed_empty l (Value.list [ofKey l])
  simp [underItself, equal_dict_iff, Dict.find?_eq_scan? _ indexed, Dict.size, entries, Dict.scan?,
    Dict.entryOf?, Key.same_comm l k, same, equal_list_iff, equal_ofKey]

theorem worth?_negativeZero :
    (Key.real (.finite true Binary64.zeroRank)).worth? = some (.place (.ofInt 0)) := by
  have none : Binary64.zeroRank.units = 0 := by simp [Rank.units, Rank.significand, Binary64.zeroRank]
  have whole : (Binary64.finite true Binary64.zeroRank).toInt? = some 0 := by
    rw [Binary64.toInt?, none, Nat.zero_mod, Nat.zero_div]
    rfl
  rw [Key.worth?, (Binary64.toInt?_eq_some_iff _ 0).mp whole]
  rfl

theorem equal_partial_equivalence (a b c : Value) (first : a.Built) (second : b.Built)
    (third : c.Built) :
    (a.equal b = true → b.equal a = true) ∧
      (a.equal b = true → b.equal c = true → a.equal c = true) ∧
      (a.equal a = true ↔ ¬ a.HoldsNan) :=
  ⟨equal_symm a b first second, equal_trans a b c second third, equal_self_iff a first⟩

theorem equal_partial_equivalence_zeros :
    let a := underItself (.int 0)
    let b := underItself (.bool false)
    let c := underItself (.real (.finite true Binary64.zeroRank))
    (a.Built ∧ b.Built ∧ c.Built) ∧ (a.equal b = true ∧ b.equal c = true) ∧
      (b.equal a = true ∧ a.equal c = true ∧ ¬ a.HoldsNan) := by
  intro a b c
  have first : a.equal b = true :=
    equal_underItself _ _ ((Key.same_iff _ _).mpr ⟨.place (.ofInt 0), rfl, rfl⟩)
  have second : b.equal c = true :=
    equal_underItself _ _ ((Key.same_iff _ _).mpr ⟨.place (.ofInt 0), rfl, worth?_negativeZero⟩)
  have self : a.equal a = true := equal_underItself _ _ ((Key.same_self_iff _).mpr (by simp))
  have built := built_underItself
  obtain ⟨symmetric, transitive, reflexive⟩ :=
    equal_partial_equivalence a b c (built _) (built _) (built _)
  exact ⟨⟨built _, built _, built _⟩, ⟨first, second⟩, symmetric first, transitive first second,
    reflexive.mp self⟩

end Value

end TableScript
