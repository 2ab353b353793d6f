import Mathlib.Data.List.TakeWhile
import TableScript.Proofs.Json.Shape
import TableScript.Proofs.Value.Equality
import TableScript.Value.Document

set_option autoImplicit false

namespace TableScript.Value

/--
The values that a document can hold: reals are finite, keys are texts, containers are nested at most so
deep, and no dictionary begins with the key that marks a number.
-/
inductive Encodable : Nat → Value → Prop where
  | none (depth : Nat) : Encodable depth .none
  | bool (depth : Nat) (b : Bool) : Encodable depth (.bool b)
  | int (depth : Nat) (n : Int) : Encodable depth (.int n)
  | real (depth : Nat) (x : Binary64) (finite : x.isFinite = true) : Encodable depth (.real x)
  | str (depth : Nat) (s : String) : Encodable depth (.str s)
  | list (depth : Nat) (items : List Value) (parts : ∀ v ∈ items, Encodable depth v) :
      Encodable (depth + 1) (.list items)
  | dict (depth : Nat) (d : Dict Value) (texts : ∀ entry ∈ d.entries, ∃ s, entry.1 = .str s)
      (unmarked : (Dict.keys d.entries).head? ≠ some (.str Json.numberMarker))
      (parts : ∀ entry ∈ d.entries, Encodable depth entry.2) : Encodable (depth + 1) (.dict d)

inductive HoldsNonFinite : Value → Prop where
  | here (x : Binary64) (other : x.isFinite = false) : HoldsNonFinite (.real x)
  | item (items : List Value) (v : Value) (member : v ∈ items) (inside : HoldsNonFinite v) :
      HoldsNonFinite (.list items)
  | value (d : Dict Value) (entry : Key × Value) (member : entry ∈ d.entries)
      (inside : HoldsNonFinite entry.2) : HoldsNonFinite (.dict d)

theorem Encodable.not_holdsNonFinite {depth : Nat} {v : Value} (h : Encodable depth v) :
    ¬ HoldsNonFinite v := by
  intro held
  induction h with
  | none | bool | int | str => cases held
  | real _ x finite =>
    cases held with
    | here _ other => simp [finite] at other
  | list _ items _ ih =>
    cases held with
    | item _ v member inside => exact ih v member inside
  | dict _ d _ _ _ ih =>
    cases held with
    | value _ entry member inside => exact ih entry member inside

theorem ofItems_eq (items : List Json) : ofItems items = items.map ofJson := by
  induction items with
  | nil => rfl
  | cons j items ih => rw [ofItems, ih, List.map_cons]

theorem toItems_eq (items : List Value) : toItems items = items.map toJson := by
  induction items with
  | nil => rfl
  | cons v items ih => rw [toItems, ih, List.map_cons]

theorem toMembers_eq (entries : List (Key × Value)) :
    toMembers entries = entries.map fun entry => (keyName entry.1, toJson entry.2) := by
  induction entries with
  | nil => rfl
  | cons entry entries ih => rw [toMembers, ih, List.map_cons]

theorem toJson_dict (d : Dict Value) :
    toJson (.dict d) = .object (Assoc.collect (toMembers d.entries)) := by
  cases d
  rw [toJson]

def entriesOf (members : List (String × Json)) : List (Key × Value) :=
  members.map fun member => (.str member.1, ofJson member.2)

theorem ofJson_object (members : List (String × Json)) :
    ofJson (.object members) = .dict (Dict.ofEntries (entriesOf members)) := by
  have fold (d : Dict Value) : ofMembers d members =
      (entriesOf members).foldl (fun d entry => d.insert entry.1 entry.2) d := by
    induction members generalizing d with
    | nil => rfl
    | cons member members ih => rw [ofMembers, ih]; rfl
  rw [ofJson, fold, Dict.ofEntries]

theorem distinct_entriesOf (members : List (String × Json)) (h : (members.map (·.1)).Nodup) :
    Dict.Distinct (entriesOf members) := by
  rw [Dict.Distinct, Dict.keys, entriesOf, List.map_map, List.pairwise_map]
  rw [List.Nodup, List.pairwise_map] at h
  exact h.imp fun apart => by simpa [Key.same] using apart

theorem Built.dict_filled (d : Dict Value) (h : Built (.dict d)) : d.Filled := by
  generalize shape : Value.dict d = v at h
  induction h generalizing d with
  | empty =>
    cases shape
    exact Dict.filled_empty
  | insert before k v _ _ ih _ =>
    cases shape
    exact Dict.filled_insert before (ih before rfl) k v
  | _ => cases shape

theorem built_ofEntries (es : List (Key × Value)) (h : ∀ entry ∈ es, Built entry.2) :
    Built (.dict (Dict.ofEntries es)) := by
  refine List.foldlRecOn (motive := fun d => Built (.dict d)) es _ .empty ?_
  intro d built entry member
  exact .insert d entry.1 entry.2 built (h entry member)

section Texts

variable (entries : List (Key × Value)) (texts : ∀ entry ∈ entries, ∃ s, entry.1 = .str s)

include texts

theorem str_keyName (entry : Key × Value) (member : entry ∈ entries) : .str (keyName entry.1) = entry.1 := by
  obtain ⟨s, text⟩ := texts entry member
  rw [text, keyName]

theorem nodup_keyNames (distinct : Dict.Distinct entries) :
    ((toMembers entries).map (·.1)).Nodup := by
  rw [toMembers_eq, List.map_map, List.Nodup, List.pairwise_map]
  rw [Dict.Distinct, Dict.keys, List.pairwise_map] at distinct
  apply distinct.imp_of_mem
  intro entry other here there apart same
  have keys : entry.1 = other.1 := by
    rw [← str_keyName entries texts entry here, ← str_keyName entries texts other there]
    exact congrArg Key.str same
  obtain ⟨s, text⟩ := texts other there
  simp [keys, text, Key.same] at apart

theorem head?_keyNames (unmarked : (Dict.keys entries).head? ≠ some (.str Json.numberMarker)) :
    ((toMembers entries).map (·.1)).head? ≠ some Json.numberMarker := by
  cases entries with
  | nil => simp [toMembers]
  | cons entry entries =>
    have key := str_keyName _ texts entry List.mem_cons_self
    intro first
    apply unmarked
    rw [Dict.keys_cons, ← key]
    exact congrArg (Option.map Key.str) first

theorem entriesOf_toMembers (parts : ∀ entry ∈ entries, ofJson (toJson entry.2) = entry.2) :
    entriesOf (toMembers entries) = entries := by
  rw [toMembers_eq, entriesOf, List.map_map]
  refine (List.map_congr_left fun entry member => ?_).trans (List.map_id entries)
  exact Prod.ext (str_keyName entries texts entry member) (parts entry member)

end Texts

-- The keys are texts and different, so no member is lost and the dictionary grows as it did before.
theorem document_dict (depth : Nat) (d : Dict Value) (built : Built (.dict d))
    (texts : ∀ entry ∈ d.entries, ∃ s, entry.1 = .str s)
    (unmarked : (Dict.keys d.entries).head? ≠ some (.str Json.numberMarker))
    (parts : ∀ entry ∈ d.entries, Json.Formed (·.isFinite = true) depth (toJson entry.2) ∧
      ofJson (toJson entry.2) = entry.2) :
    Json.Formed (·.isFinite = true) (depth + 1) (toJson (.dict d)) ∧
      ofJson (toJson (.dict d)) = .dict d := by
  obtain ⟨_, distinct, _⟩ := built.dict_facts d
  have names := nodup_keyNames d.entries texts distinct
  have members : toJson (.dict d) = .object (toMembers d.entries) := by
    rw [toJson_dict, Assoc.collect_of_nodup _ names]
  rw [members, ofJson_object]
  constructor
  next =>
    refine .object depth _ names (head?_keyNames d.entries texts unmarked) ?_
    intro member inside
    rw [toMembers_eq] at inside
    obtain ⟨entry, here, rfl⟩ := List.mem_map.mp inside
    exact (parts entry here).1
  next =>
    rw [entriesOf_toMembers d.entries texts fun entry member => (parts entry member).2,
      Dict.ofEntries_entries d distinct (built.dict_filled d)]

theorem document_of_encodable (depth : Nat) (v : Value) (h : Encodable depth v) (built : Built v) :
    Json.Formed (·.isFinite = true) depth (toJson v) ∧ ofJson (toJson v) = v := by
  induction h with
  | none depth => exact ⟨.null depth, rfl⟩
  | bool depth b => exact ⟨.bool depth b, rfl⟩
  | int depth n => exact ⟨.int depth n, rfl⟩
  | real depth x finite =>
    rw [toJson, if_pos finite]
    exact ⟨.real depth x finite, rfl⟩
  | str depth s => exact ⟨.string depth s, rfl⟩
  | list depth items _ ih =>
    have parts := built.list_parts
    rw [toJson, toItems_eq, ofJson, ofItems_eq, List.map_map]
    constructor
    next =>
      refine .array depth _ fun j member => ?_
      obtain ⟨v, inside, rfl⟩ := List.mem_map.mp member
      exact (ih v inside (parts v inside)).1
    next =>
      refine congrArg Value.list ((List.map_congr_left fun v inside => ?_).trans (List.map_id items))
      exact (ih v inside (parts v inside)).2
  | dict depth d texts unmarked _ ih =>
    obtain ⟨_, _, parts⟩ := built.dict_facts d
    exact document_dict depth d built texts unmarked fun entry member =>
      ih entry member (parts entry member)

theorem built_ofJson (depth : Nat) (j : Json) (h : Json.Shaped depth j) : Built (ofJson j) := by
  induction h with
  | null => exact .none
  | bool _ b => exact .bool b
  | int _ n => exact .int n
  | real _ x => exact .real x
  | string _ s => exact .str s
  | array _ items _ ih =>
    rw [ofJson, ofItems_eq]
    refine .list _ fun v member => ?_
    obtain ⟨j, inside, rfl⟩ := List.mem_map.mp member
    exact ih j inside
  | object _ members _ _ _ ih =>
    rw [ofJson_object]
    refine built_ofEntries _ fun entry inside => ?_
    obtain ⟨member, here, rfl⟩ := List.mem_map.mp inside
    exact ih member here

theorem encodable_ofJson (depth : Nat) (j : Json) (h : Json.Shaped depth j)
    (finite : ¬ HoldsNonFinite (ofJson j)) : Encodable depth (ofJson j) := by
  induction h with
  | null depth => exact .none depth
  | bool depth b => exact .bool depth b
  | int depth n => exact .int depth n
  | real depth x =>
    refine .real depth x ?_
    by_contra other
    exact finite (.here x (by simpa using other))
  | string depth s => exact .str depth s
  | array depth items _ ih =>
    rw [ofJson, ofItems_eq] at finite ⊢
    refine .list depth _ fun v member => ?_
    obtain ⟨j, inside, rfl⟩ := List.mem_map.mp member
    exact ih j inside fun held => finite (.item _ _ member held)
  | object depth members distinct unmarked _ ih =>
    have entries := Dict.entries_ofEntries _ (distinct_entriesOf members distinct)
    rw [ofJson_object] at finite ⊢
    refine .dict depth _ ?_ ?_ ?_
    next =>
      intro entry inside
      rw [entries] at inside
      obtain ⟨member, _, rfl⟩ := List.mem_map.mp inside
      exact ⟨member.1, rfl⟩
    next =>
      rw [entries]
      cases members with
      | nil => simp [entriesOf, Dict.keys]
      | cons member members => simpa [entriesOf, Dict.keys] using unmarked
    next =>
      intro entry inside
      have known := inside
      rw [entries] at known
      obtain ⟨member, here, rfl⟩ := List.mem_map.mp known
      exact ih member here fun held => finite (.value _ _ inside held)

theorem exists_of_trimBlank (cs : List Char) :
    ∃ front back, cs = front ++ (trimBlank cs ++ back) ∧ ∀ c ∈ front, Text.isBlank c = true := by
  refine ⟨cs.takeWhile Text.isBlank, ((cs.dropWhile Text.isBlank).reverse.takeWhile Text.isBlank).reverse,
    ?_, fun c member => List.mem_takeWhile_imp member⟩
  rw [trimBlank, ← List.reverse_append, List.takeWhile_append_dropWhile, List.reverse_reverse,
    List.takeWhile_append_dropWhile]

theorem ne_of_isBlank (c d : Char) (blank : Text.isBlank c = true) (shown : 0x20 < d.toNat)
    (ascii : d.toNat < 0x80) : c ≠ d := by
  have table : ∀ range ∈ Text.blankRanges, range.2 ≤ 0x20 ∨ 0x80 ≤ range.1 := by decide
  obtain ⟨range, inside, low, high⟩ := (Text.has_eq_true_iff Text.blankRanges c).mp blank
  rintro rfl
  have := table range inside
  omega

-- JSON skips fewer blanks; the first that it does not skip is no beginning of a value.
theorem skipSpace_blanks (front : List Char) (d : Char) (rest : List Char) (solid : Json.isSpace d = false)
    (blank : ∀ c ∈ front, Text.isBlank c = true) :
    ∃ c after, Json.skipSpace (front ++ d :: rest) = c :: after ∧
      (Text.isBlank c = true ∨ c :: after = d :: rest) := by
  induction front with
  | nil => exact ⟨d, rest, Json.skipSpace_cons d rest solid, .inr rfl⟩
  | cons b front ih =>
    by_cases space : Json.isSpace b = true
    next =>
      have skipped : Json.skipSpace (b :: front ++ d :: rest) = Json.skipSpace (front ++ d :: rest) := by
        simp [Json.skipSpace, space]
      rw [skipped]
      exact ih fun c member => blank c (List.mem_cons_of_mem _ member)
    next =>
      have stays := Json.skipSpace_cons b (front ++ d :: rest) (by simpa using space)
      exact ⟨b, front ++ d :: rest, stays, .inl (blank b List.mem_cons_self)⟩

theorem number?_of_isBlank (c : Char) (cs : List Char) (blank : Text.isBlank c = true) :
    Json.number? (c :: cs) = Option.none := by
  have unsigned : Numeral.sign (c :: cs) = (false, c :: cs) :=
    Numeral.sign_of_ne c cs (ne_of_isBlank c '-' blank (by decide) (by decide))
      (ne_of_isBlank c '+' blank (by decide) (by decide))
  apply Json.number?_of_no_digit
  rw [unsigned]
  rintro _ ⟨⟩
  by_contra digit
  have bounds := Numeral.isDigit_bounds c (by simpa using digit)
  exact ne_of_isBlank c c blank (by omega) (by omega) rfl

-- Behind its sign, the name of such a number begins with a letter that no word begins with.
theorem exists_of_namedReal? (cs : List Char) (x : Binary64) (h : namedReal? cs = some x) :
    x.isFinite = false ∧ ∃ d rest, cs = d :: rest ∧ Json.isSpace d = false ∧
      d ∉ ['"', '[', '{', 'n', 't', 'f'] ∧ ∀ more, Json.number? (d :: (rest ++ more)) = Option.none := by
  unfold namedReal? at h
  split at h
  next same =>
    cases h
    refine ⟨rfl, 'N', _, same, by decide, by decide, fun more => Json.number?_of_no_digit _ ?_⟩
    rintro _ ⟨⟩
    decide
  split at h
  next same =>
    cases h
    refine ⟨rfl, 'I', _, same, by decide, by decide, fun more => Json.number?_of_no_digit _ ?_⟩
    rintro _ ⟨⟩
    decide
  split at h
  next same =>
    cases h
    refine ⟨rfl, '-', _, same, by decide, by decide, fun more => Json.number?_of_no_digit _ ?_⟩
    rintro _ ⟨⟩
    decide
  next => cases h

theorem read?_of_namedReal? (cs : List Char) (x : Binary64) (h : namedReal? (trimBlank cs) = some x) :
    Json.read? cs = Option.none := by
  obtain ⟨front, back, text, blank⟩ := exists_of_trimBlank cs
  obtain ⟨_, d, rest, named, solid, plain, number⟩ := exists_of_namedReal? _ x h
  rw [named, List.cons_append] at text
  obtain ⟨c, after, first, kind⟩ := skipSpace_blanks front d (rest ++ back) solid blank
  rw [← text] at first
  have none : Json.value? Json.depthLimit cs = Option.none := by
    rcases kind with blank | same
    next =>
      have others : ∀ d ∈ ['"', '[', '{', 'n', 't', 'f'], 0x20 < d.toNat ∧ d.toNat < 0x80 := by simp
      apply Json.value?_eq_none _ cs c after first _ (number?_of_isBlank c after blank)
      intro member
      exact ne_of_isBlank c c blank (others c member).1 (others c member).2 rfl
    next =>
      cases same
      exact Json.value?_eq_none _ cs d _ first plain (number back)
  rw [Json.read?, none]
  rfl

theorem ofLiteral_of_read? (s : String) (j : Json) (h : Json.read? s.toList = some j) :
    ofLiteral s = ofJson j := by
  have unnamed : namedReal? (trimBlank s.toList) = Option.none := by
    rw [Option.eq_none_iff_forall_ne_some]
    intro x named
    rw [read?_of_namedReal? s.toList x named] at h
    cases h
  simp only [ofLiteral, unnamed, h]

theorem ofLiteral_write (v : Value) (built : Built v) (h : Encodable Json.depthLimit v) :
    ofLiteral (toJson v).write = v := by
  obtain ⟨formed, same⟩ := document_of_encodable Json.depthLimit v h built
  have read : Json.read? (toJson v).write.toList = some (toJson v) := by
    rw [Json.write, String.toList_ofList]
    exact Json.read?_writeChars (toJson v) formed
  rw [ofLiteral_of_read? _ _ read, same]

theorem ofLiteral_cases (s : String) :
    HoldsNonFinite (ofLiteral s) ∨ ofLiteral s = .str s ∨
      ∃ j, Json.Shaped Json.depthLimit j ∧ ofLiteral s = ofJson j := by
  unfold ofLiteral
  split
  next x named =>
    obtain ⟨other, _⟩ := exists_of_namedReal? _ x named
    exact .inl (.here x other)
  next =>
    split
    next j read => exact .inr (.inr ⟨j, Json.shaped_read? _ j read, rfl⟩)
    next => exact .inr (.inl rfl)

theorem built_encodable_ofLiteral (s : String) (finite : ¬ HoldsNonFinite (ofLiteral s)) :
    Built (ofLiteral s) ∧ Encodable Json.depthLimit (ofLiteral s) := by
  rcases ofLiteral_cases s with held | text | ⟨j, shaped, value⟩
  next => exact absurd held finite
  next =>
    rw [text]
    exact ⟨.str s, .str _ s⟩
  next =>
    rw [value] at finite ⊢
    exact ⟨built_ofJson _ j shaped, encodable_ofJson _ j shaped finite⟩

theorem literal_round_trip :
    (∀ v, Built v → Encodable Json.depthLimit v → ofLiteral (toJson v).write = v) ∧
    (∀ s, ¬ HoldsNonFinite (ofLiteral s) →
      Built (ofLiteral s) ∧ Encodable Json.depthLimit (ofLiteral s) ∧
        ofLiteral (toJson (ofLiteral s)).write = ofLiteral s) := by
  constructor
  next => exact ofLiteral_write
  next =>
    intro s finite
    obtain ⟨built, encodable⟩ := built_encodable_ofLiteral s finite
    exact ⟨built, encodable, ofLiteral_write _ built encodable⟩

def signedZeros : Value :=
  .list [.real .zero, .dict (Dict.empty.insert (.str "\"\n") (.real (.finite true Binary64.zeroRank)))]

theorem literal_round_trip_signedZeros :
    Built signedZeros ∧ Encodable Json.depthLimit signedZeros ∧
      ofLiteral (toJson signedZeros).write = signedZeros ∧
      ¬ HoldsNonFinite (ofLiteral (toJson signedZeros).write) ∧
      ofLiteral (toJson (ofLiteral (toJson signedZeros).write)).write =
        ofLiteral (toJson signedZeros).write := by
  have entries : (Dict.empty.insert (.str "\"\n") (Value.real (.finite true Binary64.zeroRank))).entries =
      [(.str "\"\n", .real (.finite true Binary64.zeroRank))] := Dict.insert_entries _ Dict.indexed_empty _ _
  have built : Built signedZeros := by
    refine .list _ (List.forall_mem_cons.mpr ⟨.real _, List.forall_mem_singleton.mpr ?_⟩)
    exact .insert _ _ _ .empty (.real _)
  have encodable : Encodable Json.depthLimit signedZeros := by
    refine .list 126 _ (List.forall_mem_cons.mpr ⟨.real _ _ rfl, List.forall_mem_singleton.mpr ?_⟩)
    refine .dict 125 _ ?_ ?_ ?_ <;> rw [entries]
    next => exact List.forall_mem_singleton.mpr ⟨_, rfl⟩
    next => decide
    next => exact List.forall_mem_singleton.mpr (.real _ _ rfl)
  have back := literal_round_trip.1 signedZeros built encodable
  have finite : ¬ HoldsNonFinite (ofLiteral (toJson signedZeros).write) := by
    rw [back]
    exact encodable.not_holdsNonFinite
  exact ⟨built, encodable, back, finite, (literal_round_trip.2 _ finite).2.2⟩

end TableScript.Value
