import TableScript.Proofs.Token.Place

set_option autoImplicit false

namespace TableScript

namespace Quotation

def push (written meant : List Char) (q : Quotation) : Quotation :=
  ⟨q.contents.map (meant ++ ·), written ++ q.taken, q.rest⟩

def read (quote : Char) : List Char → Quotation
  | [] => ⟨.error .unterminatedString, [], []⟩
  | c :: cs =>
    if c = quote then ⟨.ok [], [c], cs⟩
    else if c = '\\' then
      match cs with
      | [] => ⟨.error .unterminatedEscape, [c], []⟩
      | e :: after => (read quote after).push [c, e] (meaning e)
    else (read quote cs).push [c] [c]

theorem push_push (written meant written' meant' : List Char) (q : Quotation) :
    (q.push written' meant').push written meant =
      q.push (written ++ written') (meant ++ meant') := by
  cases contents : q.contents <;> simp [push, contents, Except.map]

theorem push_nil (q : Quotation) : q.push [] [] = q := by
  obtain ⟨contents, taken, rest⟩ := q
  cases contents <;> rfl

theorem behind_push (written meant more : List Char) (q : Quotation) :
    (q.push written meant).behind more = q.push (more ++ written) meant := by
  simp [push, behind]

end Quotation

/-- The state of a reading behind `front`, of which `segment` is not copied yet. -/
def Copying.reached (copied : Option (List Char)) (front segment : List Char) : Copying :=
  ⟨copied, String.utf8Len front, String.utf8Len (front ++ segment)⟩

namespace Copying

variable (copied : Option (List Char)) (front segment cs : List Char)

theorem contents_reached :
    (reached copied front segment).contents (front ++ segment ++ cs) =
      copied.getD [] ++ segment := by
  rw [contents, reached, slice_utf8Len]

theorem pass_reached (c : Char) :
    (reached copied front segment).pass c = .reached copied front (segment ++ [c]) := by
  simp [pass, reached, String.utf8Len_append, Nat.add_assoc]

theorem escape_reached (e : Char) :
    (reached copied front segment).escape (front ++ segment ++ cs) e =
      .reached (some (copied.getD [] ++ segment ++ Quotation.meaning e))
        (front ++ segment ++ ['\\', e]) [] := by
  rw [escape, contents_reached, pass_reached, pass_reached]
  simp [reached, List.append_assoc]

end Copying

namespace Quotation

-- What is left is read as by itself; in front of it stands what is copied and what is still to copy.
theorem copyFrom_reached (quote : Char) (copied : Option (List Char)) (front segment cs : List Char) :
    copyFrom quote (front ++ segment ++ cs) (.reached copied front segment) cs =
      (read quote cs).push [] (copied.getD [] ++ segment) := by
  fun_induction read quote cs generalizing copied front segment with
  | case1 => rfl
  | case2 cs =>
    rw [copyFrom.eq_def]
    simp only [if_true, Copying.contents_reached]
    simp [push, Except.map]
  | case3 other =>
    rw [copyFrom, if_neg other, if_pos rfl]
    rfl
  | case4 e cs other ih =>
    have text : front ++ segment ++ '\\' :: e :: cs = front ++ segment ++ ['\\', e] ++ [] ++ cs := by
      simp
    rw [copyFrom, if_neg other, if_pos rfl, Copying.escape_reached, text, ih, behind_push, push_push]
    simp
  | case5 c cs other plain ih =>
    have text : front ++ segment ++ c :: cs = front ++ (segment ++ [c]) ++ cs := by simp
    rw [copyFrom.eq_def]
    simp only [if_neg other, if_neg plain, Copying.pass_reached]
    rw [text, ih, behind_push, push_push]
    simp

theorem copy_eq_read (quote : Char) (text : List Char) : copy quote text = read quote text := by
  have whole := copyFrom_reached quote none [] [] text
  rwa [List.append_nil, Option.getD_none, List.append_nil, push_nil, List.nil_append] at whole

end Quotation

theorem Scan.quotation_eq (quote : Char) (cs : List Char) :
    quotation quote cs = ⟨(Quotation.read quote cs).contents.map fun contents =>
      .string (String.ofList contents), quote :: (Quotation.read quote cs).taken,
      (Quotation.read quote cs).rest⟩ := by
  rw [quotation, Quotation.copy_eq_read]

end TableScript
