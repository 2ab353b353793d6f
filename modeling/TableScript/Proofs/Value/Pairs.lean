import TableScript.Proofs.Dict
import TableScript.Value.Operation

set_option autoImplicit false

namespace TableScript

namespace Value

def isHashable : Value → Bool
  | .none | .list _ | .dict _ => false
  | _ => true

theorem key?_of_isHashable (v : Value) (h : v.isHashable = true) :
    ∃ k, v.key? = some k ∧ v = ofKey k := by
  cases v <;> simp_all [isHashable, key?, ofKey]

theorem key?_of_not_isHashable (v : Value) (h : v.isHashable = false) : v.key? = Option.none := by
  cases v <;> simp_all [isHashable, key?]

@[simp] theorem isHashable_ofKey (k : Key) : (ofKey k).isHashable = true := by
  cases k <;> rfl

theorem equal_ofKey (k l : Key) : equal (ofKey k) (ofKey l) = k.same l := by
  cases k <;> cases l <;> simp [ofKey, equal, Key.same, sameNumber, number?, Key.number?]

theorem equal_nan (v : Value) : v.equal (.real .nan) = false := by
  cases v <;> simp [equal, sameNumber, number?, Number.same, Number.compare?_eq, Number.place?,
    Binary64.place?]

end Value

abbrev Pairs := List (Value × Value)

namespace Pairs

def put (key value : Value) : Pairs → Pairs
  | [] => [(key, value)]
  | (other, old) :: rest =>
    if other.equal key then (other, value) :: rest else (other, old) :: put key value rest

def insert (pairs : Pairs) (key value : Value) : Except OperatorError Pairs :=
  if key.isHashable then .ok (put key value pairs) else .error (.unhashableKey key.type)

def find (pairs : Pairs) (key : Value) : Except OperatorError (Option Value) :=
  if key.isHashable then .ok ((pairs.find? fun pair => pair.1.equal key).map (·.2))
  else .error (.unhashableKey key.type)

theorem put_nan (value : Value) (pairs : Pairs) :
    put (.real .nan) value pairs = pairs ++ [(.real .nan, value)] := by
  induction pairs with
  | nil => rfl
  | cons pair rest ih => simp [put, Value.equal_nan, ih]

end Pairs

inductive Insertion where
  | entry (key value : Value)
  | named (name : String) (value : Value)

namespace Insertion

abbrev Outcome := Except OperatorError Unit

def attempt {σ : Type} (store : σ) : Except OperatorError σ → Outcome × σ
  | .ok changed => (.ok (), changed)
  -- a failure leaves the store as it was
  | .error e => (.error e, store)

def onDict [Hashable Key.Code] (d : Dict Value) : Insertion → Outcome × Dict Value
  | .entry key value => attempt d (Value.insertEntry d key value)
  | .named name value => (.ok (), d.insert (.str name) value)

def onPairs (pairs : Pairs) : Insertion → Outcome × Pairs
  | .entry key value => attempt pairs (pairs.insert key value)
  | .named name value => (.ok (), Pairs.put (.str name) value pairs)

def run {σ : Type} (step : σ → Insertion → Outcome × σ) (store : σ) :
    List Insertion → List Outcome × σ
  | [] => ([], store)
  | request :: rest =>
    let (outcome, changed) := step store request
    let (outcomes, last) := run step changed rest
    (outcome :: outcomes, last)

end Insertion

namespace Dict

def pairs (d : Dict Value) : Pairs := d.entries.map fun entry => (Value.ofKey entry.1, entry.2)

theorem pairs_overwrite (k : Key) (v : Value) (entries : List (Key × Value)) :
    (overwrite k v entries).map (fun entry => (Value.ofKey entry.1, entry.2)) =
      Pairs.put (Value.ofKey k) v (entries.map fun entry => (Value.ofKey entry.1, entry.2)) := by
  induction entries with
  | nil => rfl
  | cons entry rest ih =>
    simp only [overwrite, List.map_cons, Pairs.put, Value.equal_ofKey]
    split <;> simp [ih]

variable [Hashable Key.Code]

theorem pairs_insert (d : Dict Value) (h : d.Indexed) (k : Key) (v : Value) :
    (d.insert k v).pairs = Pairs.put (Value.ofKey k) v d.pairs := by
  rw [pairs, insert_entries d h, pairs_overwrite]
  rfl

theorem findEntry_eq (d : Dict Value) (h : d.Indexed) (key : Value) :
    Value.findEntry d key = d.pairs.find key := by
  unfold Value.findEntry Pairs.find
  cases hashable : key.isHashable with
  | false => simp [Value.key?_of_not_isHashable key hashable]
  | true =>
    obtain ⟨k, known, rfl⟩ := Value.key?_of_isHashable key hashable
    simp [find?_eq_scan? d h, scan?, entryOf?, pairs, Value.equal_ofKey, Function.comp_def]

theorem onDict_eq_onPairs (d : Dict Value) (h : d.Indexed) (request : Insertion) :
    (request.onDict d).1 = (request.onPairs d.pairs).1 ∧
      (request.onDict d).2.pairs = (request.onPairs d.pairs).2 ∧ (request.onDict d).2.Indexed := by
  cases request with
  | entry key value =>
    unfold Insertion.onDict Insertion.onPairs Value.insertEntry Pairs.insert
    cases hashable : key.isHashable with
    | false => simp [Value.key?_of_not_isHashable key hashable, hashable, Insertion.attempt, h]
    | true =>
      obtain ⟨k, known, rfl⟩ := Value.key?_of_isHashable key hashable
      simp [Insertion.attempt, pairs_insert d h, indexed_insert d h]
  | named name value => exact ⟨rfl, pairs_insert d h (.str name) value, indexed_insert d h _ value⟩

theorem run_onDict (d : Dict Value) (h : d.Indexed) (requests : List Insertion) :
    (Insertion.run Insertion.onDict d requests).1 =
        (Insertion.run Insertion.onPairs d.pairs requests).1 ∧
      (Insertion.run Insertion.onDict d requests).2.pairs =
        (Insertion.run Insertion.onPairs d.pairs requests).2 ∧
      (Insertion.run Insertion.onDict d requests).2.Indexed := by
  -- what one request keeps, buckets included, is what the next one needs
  induction requests generalizing d with
  | nil => exact ⟨rfl, rfl, h⟩
  | cons request rest ih =>
    obtain ⟨outcome, entries, indexed⟩ := onDict_eq_onPairs d h request
    obtain ⟨outcomes, last, kept⟩ := ih (request.onDict d).2 indexed
    simp only [Insertion.run, outcome, ← entries]
    exact ⟨by rw [outcomes], last, kept⟩

theorem mem_bucket_lt_size (d : Dict Value) (h : d.Indexed) (code : UInt64) (bucket : List Nat)
    (present : d.buckets[code]? = some bucket) (i : Nat) (member : i ∈ bucket) : i < d.size := by
  have filled : d.buckets.getD code [] = bucket := by
    rw [Std.HashMap.getD_eq_getD_getElem?, present, Option.getD_some]
  rw [← filled, h code] at member
  exact List.mem_range.mp (List.mem_filter.mp member).1

theorem findEntry_unhashable (d : Dict Value) (key : Value) (h : key.isHashable = false) :
    Value.findEntry d key = .error (.unhashableKey key.type) := by
  rw [Value.findEntry, Value.key?_of_not_isHashable key h]

theorem onDict_unhashable (d : Dict Value) (key value : Value) (h : key.isHashable = false) :
    (Insertion.entry key value).onDict d = (.error (.unhashableKey key.type), d) := by
  rw [Insertion.onDict, Value.insertEntry, Value.key?_of_not_isHashable key h, Insertion.attempt]

theorem run_refines_pairs (requests : List Insertion) :
    let dict := Insertion.run Insertion.onDict empty requests
    let list := Insertion.run Insertion.onPairs [] requests
    dict.1 = list.1 ∧ dict.2.pairs = list.2 ∧ dict.2.size = list.2.length ∧
      (∀ key, Value.findEntry dict.2 key = list.2.find key) ∧
      (∀ value, ((Insertion.entry (.real .nan) value).onDict dict.2).1 = .ok () ∧
        ((Insertion.entry (.real .nan) value).onDict dict.2).2.pairs =
          list.2 ++ [(.real .nan, value)]) ∧
      Value.findEntry dict.2 (.real .nan) = .ok none ∧
      (∀ key value, key.isHashable = false →
        Value.findEntry dict.2 key = .error (.unhashableKey key.type) ∧
          (Insertion.entry key value).onDict dict.2 = (.error (.unhashableKey key.type), dict.2)) ∧
      ∀ (code : UInt64) (bucket : List Nat), dict.2.buckets[code]? = some bucket →
        ∀ i ∈ bucket, i < dict.2.size := by
  intro dict list
  obtain ⟨outcomes, entries, indexed⟩ :
      dict.1 = list.1 ∧ dict.2.pairs = list.2 ∧ dict.2.Indexed :=
    run_onDict empty indexed_empty requests
  refine ⟨outcomes, entries, ?_, ?_, ?_, ?_, ?_, mem_bucket_lt_size dict.2 indexed⟩
  next => rw [← entries, pairs, List.length_map, size]
  next => exact fun key => entries ▸ findEntry_eq dict.2 indexed key
  next =>
    intro value
    obtain ⟨outcome, appended, -⟩ := onDict_eq_onPairs dict.2 indexed (.entry (.real .nan) value)
    rw [outcome, appended, entries]
    exact ⟨rfl, Pairs.put_nan value list.2⟩
  next =>
    rw [findEntry_eq dict.2 indexed, Pairs.find]
    simp [Value.isHashable, Value.equal_nan]
  next =>
    intro key value unhashable
    exact ⟨findEntry_unhashable dict.2 key unhashable, onDict_unhashable dict.2 key value unhashable⟩

end Dict

end TableScript
