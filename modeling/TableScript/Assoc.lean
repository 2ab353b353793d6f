set_option autoImplicit false

namespace TableScript.Assoc

variable {κ α : Type} [DecidableEq κ]

def put (entries : List (κ × α)) (name : κ) (value : α) : List (κ × α) :=
  match entries with
  | [] => [(name, value)]
  | (other, old) :: rest =>
    if other = name then (other, value) :: rest else (other, old) :: put rest name value

def collect (entries : List (κ × α)) : List (κ × α) :=
  entries.foldl (fun all entry => put all entry.1 entry.2) []

def find? (entries : List (κ × α)) (name : κ) : Option α :=
  match entries with
  | [] => none
  | (other, value) :: rest => if other = name then some value else find? rest name

@[simp] theorem find?_put_self (entries : List (κ × α)) (name : κ) (value : α) :
    find? (put entries name value) name = some value := by
  induction entries with
  | nil => simp [put, find?]
  | cons entry rest ih =>
    by_cases same : entry.1 = name <;> simp [put, find?, same, ih]

theorem find?_put_of_ne (entries : List (κ × α)) (name other : κ) (value : α)
    (h : other ≠ name) : find? (put entries name value) other = find? entries other := by
  induction entries with
  | nil => simp [put, find?, Ne.symm h]
  | cons entry rest ih =>
    by_cases same : entry.1 = name
    next => simp [put, find?, same, Ne.symm h]
    next => by_cases found : entry.1 = other <;> simp_all [put, find?]

theorem names_put (entries : List (κ × α)) (name : κ) (value : α) :
    (put entries name value).map (·.1) =
      if name ∈ entries.map (·.1) then entries.map (·.1) else entries.map (·.1) ++ [name] := by
  induction entries with
  | nil => rfl
  | cons entry rest ih =>
    by_cases same : entry.1 = name
    next => simp [put, same]
    next =>
      simp only [put, same, if_false, List.map_cons, ih, List.mem_cons, Ne.symm same, false_or]
      split <;> simp

theorem put_of_not_mem (entries : List (κ × α)) (name : κ) (value : α)
    (missing : name ∉ entries.map (·.1)) : put entries name value = entries ++ [(name, value)] := by
  induction entries with
  | nil => rfl
  | cons entry rest ih =>
    simp only [List.map_cons, List.mem_cons, not_or] at missing
    simp [put, Ne.symm missing.1, ih missing.2]

theorem mem_put (entries : List (κ × α)) (name : κ) (value : α) (entry : κ × α)
    (h : entry ∈ put entries name value) : entry.2 = value ∨ entry ∈ entries := by
  induction entries with
  | nil => exact .inl (by simp_all [put])
  | cons first rest ih =>
    simp only [put] at h
    split at h
    next =>
      rcases List.mem_cons.mp h with rfl | later
      next => exact .inl rfl
      next => exact .inr (List.mem_cons_of_mem _ later)
    next =>
      rcases List.mem_cons.mp h with rfl | later
      next => exact .inr List.mem_cons_self
      next => exact (ih later).imp_right (List.mem_cons_of_mem _)

theorem nodup_names_collect (entries : List (κ × α)) : ((collect entries).map (·.1)).Nodup := by
  refine List.foldlRecOn (motive := fun all : List (κ × α) => (all.map (·.1)).Nodup) entries _ ?_ ?_
  next => exact List.nodup_nil
  intro all distinct entry _
  rw [names_put]
  split
  next => exact distinct
  next missing =>
    rw [List.nodup_append]
    refine ⟨distinct, by simp, ?_⟩
    intro name member other last same
    exact missing (List.mem_singleton.mp last ▸ same ▸ member)

theorem forall_mem_collect (entries : List (κ × α)) (P : α → Prop)
    (h : ∀ entry ∈ entries, P entry.2) : ∀ entry ∈ collect entries, P entry.2 := by
  refine List.foldlRecOn (motive := fun all : List (κ × α) => ∀ entry ∈ all, P entry.2) entries _
    (by simp) ?_
  intro all holds entry member other inside
  rcases mem_put all entry.1 entry.2 other inside with new | old
  next => exact new ▸ h entry member
  next => exact holds other old

-- The first name to come stays in front.
theorem head?_names_collect (entry : κ × α) (entries : List (κ × α)) :
    ((collect (entry :: entries)).map (·.1)).head? = some entry.1 := by
  refine List.foldlRecOn (motive := fun all : List (κ × α) => (all.map (·.1)).head? = some entry.1)
    entries _ rfl ?_
  intro all first other _
  rw [names_put]
  split
  next => exact first
  next => rw [List.head?_append, first, Option.some_or]

theorem collect_of_nodup (entries : List (κ × α)) (distinct : (entries.map (·.1)).Nodup) :
    collect entries = entries := by
  suffices step : ∀ (all : List (κ × α)), ((all ++ entries).map (·.1)).Nodup →
      entries.foldl (fun all entry => put all entry.1 entry.2) all = all ++ entries from
    step [] distinct
  clear distinct
  induction entries with
  | nil => simp
  | cons entry entries ih =>
    intro all distinct
    have missing : entry.1 ∉ all.map (·.1) := by
      rw [List.map_append, List.nodup_append] at distinct
      intro member
      exact distinct.2.2 _ member _ (by simp) rfl
    rw [List.foldl_cons, put_of_not_mem all entry.1 entry.2 missing]
    rw [ih _ (by simpa using distinct), List.append_assoc, List.singleton_append]

end TableScript.Assoc
