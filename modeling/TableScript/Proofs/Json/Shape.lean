import TableScript.Proofs.Json.RoundTrip

set_option autoImplicit false

namespace TableScript.Json

abbrev Shaped := Formed fun _ => True

theorem exists_of_bind_pure {α β : Type} (p : Option α) (f : α → β) (b : β)
    (h : (p >>= fun a => pure (f a)) = some b) : ∃ a, p = some a ∧ f a = b := by
  cases p with
  | none => cases h
  | some a => exact ⟨a, rfl, Option.some.inj h⟩

theorem shaped_ofNumeral (depth : Nat) (n : Numeral) : Shaped depth (ofNumeral n) := by
  unfold ofNumeral
  split
  next => exact .int depth _
  next => split <;> exact .real depth _ trivial

theorem shaped_number? (depth : Nat) (cs rest : List Char) (j : Json)
    (h : number? cs = some (j, rest)) : Shaped depth j := by
  simp only [number?] at h
  split at h
  next => cases h
  next =>
    split at h
    next =>
      cases h
      exact shaped_ofNumeral depth _
    next => cases h

theorem shaped_scalar? (depth : Nat) (cs : List Char) (p : Parsed Json cs.length)
    (h : scalar? cs = some p) : Shaped depth p.value := by
  have word (w : String) (j k : Json) (rest : List Char) (found : word? w j cs = some (k, rest)) :
      k = j := by
    simp only [word?] at found
    split at found <;> cases found
    rfl
  unfold scalar? at h
  split at h
  next j rest found =>
    split at h
    next =>
      cases h
      simp only [wordOrNumber?, Option.or_eq_some_iff] at found
      rcases found with null | ⟨_, true | ⟨_, false | ⟨_, number⟩⟩⟩
      next => exact word _ _ _ _ null ▸ .null depth
      next => exact word _ _ _ _ true ▸ .bool depth _
      next => exact word _ _ _ _ false ▸ .bool depth _
      next => exact shaped_number? depth cs rest j number
    next => cases h
  next => cases h

theorem shaped_markedNumber? (depth : Nat) (s : List Char) (j : Json) (h : markedNumber? s = some j) :
    Shaped depth j := by
  unfold markedNumber? at h
  split at h
  next found =>
    cases h
    exact shaped_number? depth s [] j found
  next => cases h

mutual

theorem shaped_value? (depth : Nat) (cs : List Char) (p : Parsed Json cs.length)
    (h : value? depth cs = some p) : Shaped depth p.value := by
  rw [value?] at h
  split at h
  next => cases h
  next after first =>
    obtain ⟨s, _, rfl⟩ := exists_of_bind_pure _ _ p h
    exact .string depth _
  next after first =>
    have shorter := length_lt_of_skipSpace_eq first
    cases depth with
    | zero => cases h
    | succ depth =>
      obtain ⟨items, read, rfl⟩ := exists_of_bind_pure _ _ p h
      exact .array depth _ (shaped_items? depth after items read)
  next after first =>
    have shorter := length_lt_of_skipSpace_eq first
    cases depth with
    | zero => cases h
    | succ depth =>
      obtain ⟨members, read, rfl⟩ := exists_of_bind_pure _ _ p h
      exact shaped_members? depth after members read
  next c after _ _ _ first =>
    obtain ⟨j, read, rfl⟩ := exists_of_bind_pure _ _ p h
    exact shaped_scalar? depth _ j read
termination_by (cs.length, 0)

theorem shaped_items? (depth : Nat) (cs : List Char) (p : Parsed (List Json) cs.length)
    (h : items? depth cs = some p) : ∀ j ∈ p.value, Shaped depth j := by
  rw [items?] at h
  split at h
  next =>
    cases h
    intro j member
    cases member
  next => exact shaped_laterItems? depth cs p h
termination_by (cs.length, 2)

theorem shaped_laterItems? (depth : Nat) (cs : List Char) (p : Parsed (List Json) cs.length)
    (h : laterItems? depth cs = some p) : ∀ j ∈ p.value, Shaped depth j := by
  rw [laterItems?] at h
  obtain ⟨first, found, h⟩ := Option.bind_eq_some_iff.mp h
  have shorter := first.shorter
  have head := shaped_value? depth cs first found
  dsimp only at h
  split at h
  next comma here =>
    have further := comma.shorter
    obtain ⟨more, read, rfl⟩ := exists_of_bind_pure _ _ p h
    exact List.forall_mem_cons.mpr ⟨head, shaped_laterItems? depth comma.rest more read⟩
  next =>
    obtain ⟨close, _, rfl⟩ := exists_of_bind_pure _ _ p h
    exact List.forall_mem_singleton.mpr head
termination_by (cs.length, 1)

theorem shaped_members? (depth : Nat) (cs : List Char) (p : Parsed Json cs.length)
    (h : members? depth cs = some p) : Shaped (depth + 1) p.value := by
  rw [members?] at h
  split at h
  next =>
    cases h
    exact .object depth [] List.nodup_nil (by simp) (by simp)
  next =>
    obtain ⟨quote, _, h⟩ := Option.bind_eq_some_iff.mp h
    obtain ⟨name, _, h⟩ := Option.bind_eq_some_iff.mp h
    obtain ⟨colon, _, h⟩ := Option.bind_eq_some_iff.mp h
    dsimp only at h
    split at h
    next =>
      obtain ⟨_, _, h⟩ := Option.bind_eq_some_iff.mp h
      obtain ⟨s, _, h⟩ := Option.bind_eq_some_iff.mp h
      obtain ⟨_, _, h⟩ := Option.bind_eq_some_iff.mp h
      obtain ⟨j, marked, rfl⟩ := exists_of_bind_pure _ _ p h
      exact shaped_markedNumber? (depth + 1) s.value j marked
    next plain =>
      obtain ⟨first, found, h⟩ := Option.bind_eq_some_iff.mp h
      obtain ⟨more, read, rfl⟩ := exists_of_bind_pure _ _ p h
      have := quote.shorter
      have := name.shorter
      have := colon.shorter
      have := first.shorter
      have head := shaped_value? depth colon.rest first found
      have others := shaped_laterMembers? depth first.rest more read
      refine .object depth _ (Assoc.nodup_names_collect _) ?_
        (Assoc.forall_mem_collect _ _ (List.forall_mem_cons.mpr ⟨head, others⟩))
      rw [Assoc.head?_names_collect]
      simpa using plain
termination_by (cs.length, 0)

theorem shaped_laterMembers? (depth : Nat) (cs : List Char)
    (p : Parsed (List (String × Json)) cs.length) (h : laterMembers? depth cs = some p) :
    ∀ member ∈ p.value, Shaped depth member.2 := by
  rw [laterMembers?] at h
  split at h
  next comma _ =>
    obtain ⟨quote, _, h⟩ := Option.bind_eq_some_iff.mp h
    obtain ⟨name, _, h⟩ := Option.bind_eq_some_iff.mp h
    obtain ⟨colon, _, h⟩ := Option.bind_eq_some_iff.mp h
    obtain ⟨first, found, h⟩ := Option.bind_eq_some_iff.mp h
    obtain ⟨more, read, rfl⟩ := exists_of_bind_pure _ _ p h
    have := comma.shorter
    have := quote.shorter
    have := name.shorter
    have := colon.shorter
    have := first.shorter
    have head := shaped_value? depth colon.rest first found
    have others := shaped_laterMembers? depth first.rest more read
    exact List.forall_mem_cons.mpr ⟨head, others⟩
  next =>
    obtain ⟨close, _, rfl⟩ := exists_of_bind_pure _ _ p h
    intro member inside
    cases inside
termination_by (cs.length, 0)

end

theorem shaped_read? (cs : List Char) (j : Json) (h : read? cs = some j) : Shaped depthLimit j := by
  obtain ⟨p, read, h⟩ := Option.bind_eq_some_iff.mp h
  split at h
  next =>
    cases h
    exact shaped_value? depthLimit cs p read
  next => cases h

end TableScript.Json
