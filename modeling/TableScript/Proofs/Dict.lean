import TableScript.Dict
import TableScript.Proofs.Key

set_option autoImplicit false

namespace TableScript.Dict

variable {α : Type}

def keys (entries : List (Key × α)) : List Key := entries.map (·.1)

theorem keys_cons (entry : Key × α) (rest : List (Key × α)) :
    keys (entry :: rest) = entry.1 :: keys rest := rfl

def overwrite (k : Key) (v : α) : List (Key × α) → List (Key × α)
  | [] => [(k, v)]
  | (other, old) :: rest =>
    if other.same k then (other, v) :: rest else (other, old) :: overwrite k v rest

def entryOf? (k : Key) (entries : List (Key × α)) : Option (Key × α) :=
  entries.find? fun entry => entry.1.same k

def scan? (k : Key) (entries : List (Key × α)) : Option α := (entryOf? k entries).map (·.2)

def Distinct (entries : List (Key × α)) : Prop :=
  (keys entries).Pairwise fun k l => k.same l = false

theorem overwrite_of_found (k : Key) (v : α) (entries : List (Key × α)) (i : Nat)
    (found : entries.findIdx? (fun entry => entry.1.same k) = some i) :
    overwrite k v entries = entries.modify i fun entry => (entry.1, v) := by
  induction entries generalizing i with
  | nil => simp at found
  | cons entry rest ih =>
    rw [List.findIdx?_cons] at found
    by_cases same : entry.1.same k = true
    next =>
      simp only [same, if_true, Option.some.injEq] at found
      simp [overwrite, same, ← found]
    next =>
      simp only [same, Bool.false_eq_true, if_false, Option.map_eq_some_iff] at found
      obtain ⟨j, later, rfl⟩ := found
      simp [overwrite, same, ih j later]

theorem overwrite_of_missing (k : Key) (v : α) (entries : List (Key × α))
    (missing : ∀ entry ∈ entries, entry.1.same k = false) :
    overwrite k v entries = entries ++ [(k, v)] := by
  induction entries with
  | nil => rfl
  | cons entry rest ih =>
    have later := ih fun other member => missing other (List.mem_cons_of_mem _ member)
    simp [overwrite, missing entry (by simp), later]

theorem keys_overwrite (k : Key) (v : α) (entries : List (Key × α)) :
    keys (overwrite k v entries) =
      if (keys entries).any (·.same k) then keys entries else keys entries ++ [k] := by
  induction entries with
  | nil => rfl
  | cons entry rest ih =>
    by_cases same : entry.1.same k = true
    next => simp [overwrite, keys_cons, same]
    next =>
      simp only [overwrite, same, Bool.false_eq_true, if_false, keys_cons, ih, List.any_cons,
        Bool.false_or]
      split <;> simp only [List.cons_append]

theorem distinct_overwrite (k : Key) (v : α) (entries : List (Key × α)) (h : Distinct entries) :
    Distinct (overwrite k v entries) := by
  unfold Distinct
  rw [keys_overwrite]
  split
  next => exact h
  next missing =>
    rw [List.pairwise_append]
    exact ⟨h, List.pairwise_singleton _ _, by simpa using missing⟩

theorem mem_overwrite (k : Key) (v : α) (entries : List (Key × α)) (entry : Key × α)
    (h : entry ∈ overwrite k v entries) : entry.2 = v ∨ entry ∈ entries := by
  induction entries with
  | nil => exact .inl (by simp_all [overwrite])
  | cons first rest ih =>
    simp only [overwrite] at h
    split at h
    next =>
      rcases List.mem_cons.mp h with rfl | later
      next => exact .inl rfl
      next => exact .inr (List.mem_cons_of_mem _ later)
    next =>
      rcases List.mem_cons.mp h with rfl | later
      next => exact .inr List.mem_cons_self
      next => exact (ih later).imp_right (List.mem_cons_of_mem _)

theorem scan?_congr (k l : Key) (entries : List (Key × α)) (same : k.same l = true) :
    scan? k entries = scan? l entries := by
  simp only [scan?, entryOf?, Key.same_congr k l _ same]

theorem mem_of_entryOf? (k : Key) (entries : List (Key × α)) (entry : Key × α)
    (h : entryOf? k entries = some entry) : entry ∈ entries ∧ entry.1.same k = true :=
  ⟨List.mem_of_find?_eq_some h, by simpa using List.find?_some h⟩

-- Two entries with one key would have keys that are the same.
theorem scan?_of_mem (k : Key) (entries : List (Key × α)) (distinct : Distinct entries)
    (entry : Key × α) (member : entry ∈ entries) (same : entry.1.same k = true) :
    scan? k entries = some entry.2 := by
  induction entries with
  | nil => simp at member
  | cons first rest ih =>
    obtain ⟨apart, later⟩ := List.pairwise_cons.mp distinct
    rcases List.mem_cons.mp member with rfl | behind
    next => simp [scan?, entryOf?, same]
    next =>
      have other : first.1.same k = false := by
        have := apart entry.1 (List.mem_map_of_mem behind)
        rw [← this, Key.same_congr k entry.1 _ (Key.same_symm _ _ same)]
      have rest := ih later behind
      simp only [scan?, entryOf?, List.find?_cons, other] at rest ⊢
      exact rest

theorem find?_range (entries : List (Key × α)) (p : Key × α → Bool) :
    ((List.range entries.length).find? fun i => entries[i]?.any p) = entries.findIdx? p := by
  induction entries with
  | nil => rfl
  | cons entry rest ih =>
    have behind : (fun i => (entry :: rest)[i]?.any p) ∘ Nat.succ = fun i => rest[i]?.any p := rfl
    rw [List.length_cons, List.range_succ_eq_map, List.find?_cons, List.findIdx?_cons,
      List.find?_map, behind, ih]
    by_cases hit : p entry = true <;> simp [hit]

theorem holdsAt_eq (d : Dict α) (k : Key) (i : Nat) :
    d.holdsAt k i = d.entries[i]?.any fun entry => entry.1.same k := by
  unfold holdsAt
  cases d.entries[i]? <;> rfl

theorem foldl_overwrite (all es : List (Key × α)) (distinct : Distinct (all ++ es)) :
    es.foldl (fun all entry => overwrite entry.1 entry.2 all) all = all ++ es := by
  induction es generalizing all with
  | nil => simp
  | cons entry es ih =>
    have missing : ∀ other ∈ all, other.1.same entry.1 = false := by
      intro other member
      unfold Distinct at distinct
      rw [keys, List.map_append, List.pairwise_append] at distinct
      exact distinct.2.2 _ (List.mem_map_of_mem member) _ (by simp)
    rw [List.foldl_cons, overwrite_of_missing _ _ all missing, ih _ (by simpa using distinct),
      List.append_assoc, List.singleton_append]

theorem keys_modify (entries : List (Key × α)) (i : Nat) (v : α) :
    keys (entries.modify i fun entry => (entry.1, v)) = keys entries := by
  apply List.ext_getElem?
  intro j
  simp only [keys, List.getElem?_map, List.getElem?_modify]
  cases entries[j]? with
  | none => rfl
  | some entry => by_cases here : i = j <;> simp [here]

section Buckets

variable [Hashable Key.Code]

def hashAt? (entries : List (Key × α)) (i : Nat) : Option UInt64 := entries[i]?.map (·.1.hash)

/-- Each bucket holds the positions of the entries with its hash, each once and in order. -/
def Indexed (d : Dict α) : Prop :=
  ∀ h : UInt64, d.buckets.getD h [] =
    (List.range d.entries.length).filter fun i => hashAt? d.entries i == some h

theorem hashAt?_of_holdsAt (d : Dict α) (k : Key) (i : Nat) (h : d.holdsAt k i = true) :
    hashAt? d.entries i = some k.hash := by
  unfold holdsAt at h
  split at h
  next entry place => simp [hashAt?, place, Key.hash_eq_of_same entry.1 k h]
  next => contradiction

theorem position?_eq (d : Dict α) (h : d.Indexed) (k : Key) :
    d.position? k = d.entries.findIdx? fun entry => entry.1.same k := by
  rw [← find?_range, position?, h k.hash, List.find?_filter]
  congr 1
  funext i
  rw [← holdsAt_eq]
  -- an entry with the key has its hash, so leaving out the other buckets loses none
  by_cases hit : d.holdsAt k i = true
  next => simp [hit, hashAt?_of_holdsAt d k i hit]
  next => simp [hit]

theorem find?_eq_scan? (d : Dict α) (h : d.Indexed) (k : Key) : d.find? k = scan? k d.entries := by
  rw [find?, position?_eq d h, scan?, entryOf?, List.find?_eq_bind_findIdx?_getElem?]
  cases d.entries.findIdx? fun entry => entry.1.same k <;> rfl

theorem exists_of_find? (d : Dict α) (h : d.Indexed) (k : Key) (v : α) (found : d.find? k = some v) :
    ∃ entry ∈ d.entries, entry.1.same k = true ∧ entry.2 = v := by
  rw [find?_eq_scan? d h] at found
  obtain ⟨entry, first, value⟩ := Option.map_eq_some_iff.mp found
  obtain ⟨member, same⟩ := mem_of_entryOf? k d.entries entry first
  exact ⟨entry, member, same, value⟩

theorem find?_of_mem (d : Dict α) (h : d.Indexed) (distinct : Distinct d.entries) (k : Key)
    (entry : Key × α) (member : entry ∈ d.entries) (same : entry.1.same k = true) :
    d.find? k = some entry.2 := by
  rw [find?_eq_scan? d h]
  exact scan?_of_mem k d.entries distinct entry member same

theorem find?_congr (d : Dict α) (h : d.Indexed) (k l : Key) (same : k.same l = true) :
    d.find? k = d.find? l := by
  rw [find?_eq_scan? d h, find?_eq_scan? d h, scan?_congr k l d.entries same]

theorem insert_entries (d : Dict α) (h : d.Indexed) (k : Key) (v : α) :
    (d.insert k v).entries = overwrite k v d.entries := by
  unfold insert
  rw [position?_eq d h]
  cases found : d.entries.findIdx? fun entry => entry.1.same k with
  | none => rw [overwrite_of_missing k v d.entries (by simpa using found)]
  | some i => rw [overwrite_of_found k v d.entries i found]

theorem indexed_empty : (empty : Dict α).Indexed := by
  intro h
  simp [empty]

theorem hashAt?_modify (entries : List (Key × α)) (i j : Nat) (v : α) :
    hashAt? (entries.modify i fun entry => (entry.1, v)) j = hashAt? entries j := by
  simp only [hashAt?, List.getElem?_modify]
  cases entries[j]? with
  | none => rfl
  | some entry => by_cases here : i = j <;> simp [here]

theorem indexed_insert (d : Dict α) (h : d.Indexed) (k : Key) (v : α) : (d.insert k v).Indexed := by
  intro code
  unfold insert
  split
  next i found =>
    -- the key at `i` stays, so no bucket has to change
    simp only [List.length_modify, hashAt?_modify]
    exact h code
  next missing =>
    have before : (List.range d.entries.length).filter
        (fun i => hashAt? (d.entries ++ [(k, v)]) i == some code) = d.buckets.getD code [] := by
      rw [h code]
      apply List.filter_congr
      intro i member
      simp [hashAt?, List.getElem?_append_left (List.mem_range.mp member)]
    have last : hashAt? (d.entries ++ [(k, v)]) d.entries.length = some k.hash := by simp [hashAt?]
    simp only [List.length_append, List.length_singleton, List.range_succ, List.filter_append, before]
    by_cases same : k.hash = code
    next => simp [same, last]
    next => simp [same, last, Std.HashMap.getD_insert]

theorem entries_foldl_insert (d : Dict α) (h : d.Indexed) (es : List (Key × α)) :
    (es.foldl (fun d entry => d.insert entry.1 entry.2) d).entries =
      es.foldl (fun all entry => overwrite entry.1 entry.2 all) d.entries := by
  induction es generalizing d with
  | nil => rfl
  | cons entry es ih =>
    rw [List.foldl_cons, ih _ (indexed_insert d h entry.1 entry.2), insert_entries d h, List.foldl_cons]

theorem entries_ofEntries (es : List (Key × α)) (distinct : Distinct es) : (ofEntries es).entries = es := by
  rw [ofEntries, entries_foldl_insert empty indexed_empty, empty, foldl_overwrite [] es distinct,
    List.nil_append]

def bucketsOf (ks : List Key) : Std.HashMap UInt64 (List Nat) :=
  ks.zipIdx.foldl (fun buckets k => buckets.insert k.1.hash (buckets.getD k.1.hash [] ++ [k.2])) {}

theorem bucketsOf_concat (ks : List Key) (k : Key) :
    bucketsOf (ks ++ [k]) =
      (bucketsOf ks).insert k.hash ((bucketsOf ks).getD k.hash [] ++ [ks.length]) := by
  simp [bucketsOf, List.zipIdx_append]

def Filled (d : Dict α) : Prop := d.buckets = bucketsOf (keys d.entries)

theorem filled_empty : (empty : Dict α).Filled := rfl

theorem filled_insert (d : Dict α) (h : d.Filled) (k : Key) (v : α) : (d.insert k v).Filled := by
  unfold insert
  split
  next i found =>
    rw [Filled, keys_modify]
    exact h
  next missing =>
    rw [Filled, keys, List.map_append, List.map_singleton, bucketsOf_concat, List.length_map]
    rw [Filled] at h
    rw [h]
    rfl

theorem filled_ofEntries (es : List (Key × α)) : (ofEntries es).Filled := by
  refine List.foldlRecOn es _ filled_empty ?_
  intro d filled entry _
  exact filled_insert d filled entry.1 entry.2

theorem ofEntries_entries (d : Dict α) (distinct : Distinct d.entries) (filled : d.Filled) :
    ofEntries d.entries = d := by
  have entries := entries_ofEntries d.entries distinct
  have buckets := filled_ofEntries d.entries
  rw [Filled, entries, ← filled] at buckets
  exact congrArg₂ Dict.mk entries buckets

end Buckets

end TableScript.Dict
