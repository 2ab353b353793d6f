import TableScript.Proofs.Storage.Documented

set_option autoImplicit false

namespace TableScript

theorem Piece.split_word (c : Char) (cs upper : List Char) (solid : Affinity.isSpace c = false)
    (whole : next c cs = (.word upper, [])) : split (c :: cs) = [.word upper] := by
  have none : split [] = [] := by
    rw [split]
    rfl
  rw [split]
  split
  next blank => simp [solid] at blank
  next d after first =>
    rw [List.dropWhile_cons_of_neg (by simp [solid])] at first
    cases first
    rw [whole, none]

namespace Column

theorem ofDeclaration_eq (name type : String) :
    ofDeclaration name type =
      constrain ⟨name, declaredAffinity type, false, false, false, .null⟩
        (List.intercalate [' '] (typeWords (Piece.split type.toList)).1 = "INTEGER".toList)
        (typeWords (Piece.split type.toList)).2 := rfl

theorem ofDeclaration_of_isBareType (name type : String) (h : isBareType type = true) :
    ofDeclaration name type = ⟨name, declaredAffinity type, false, false, false, .null⟩ := by
  rw [ofDeclaration_eq]
  generalize declaredAffinity type = affinity
  unfold isBareType at h
  generalize typeWords (Piece.split type.toList) = parts at h
  split at h
  next => simp [constrain]
  next => simp [constrain]
  next => simp [constrain]
  next => cases h

theorem isBareType_word (type : String) (upper : List Char)
    (single : Piece.split type.toList = [.word upper]) (plain : isTypeWord upper = true) :
    isBareType type = true ∧ declaredAffinity type = .ofType upper := by
  have words : typeWords (Piece.split type.toList) = ([upper], []) := by
    rw [single, typeWords, if_pos plain]
    rfl
  constructor
  next =>
    rw [isBareType, words]
  next =>
    rw [declaredAffinity, words]
    exact congrArg Affinity.ofType (List.append_nil upper)

end Column

namespace Table

theorem create_eq_ok {t : Table} {name : String} {declarations : List (String × String)}
    (h : create name declarations = .ok t) :
    t = ⟨name, declarations.map fun d => .ofDeclaration d.1 d.2, []⟩ := by
  unfold create at h
  split at h
  next => cases h
  next =>
    cases h
    rfl

theorem insert_eq_ok {t grown : Table} {asked : String} {given : List (String × Cell)}
    (h : t.insert asked given = .ok grown) :
    ∃ key, t.keyFor given = .ok key ∧
      grown = { t with rows := place (t.newRow key given) t.rows } := by
  unfold insert at h
  cases unknown : t.unknownColumn? given with
  | some column => simp [unknown] at h
  | none =>
    cases found : t.keyFor given with
    | error e => simp [unknown, found] at h
    | ok key =>
      cases refused : t.refusal? (t.newRow key given) with
      | some e => simp [unknown, found, refused] at h
      | none =>
        simp only [unknown, found, refused, Except.ok.injEq] at h
        exact ⟨key, rfl, h.symm⟩

end Table

theorem sameName_congr {a b : String} (h : sameName a b = true) (other : String) :
    sameName other a = sameName other b ∧ sameName a other = sameName b other := by
  rw [sameName_iff] at h
  simp only [sameName, h, and_self]

namespace Database

theorem find?_congr (db : Database) {a b : String} (h : sameName a b = true) :
    db.find? a = db.find? b := by
  have same (t : Table) : sameName t.name a = sameName t.name b := (sameName_congr h t.name).1
  simp only [find?, same]

theorem sameName_of_find? {db : Database} {name : String} {t : Table} (h : db.find? name = some t) :
    sameName t.name name = true := by
  unfold find? at h
  have named := List.find?_some h
  exact named

theorem create_eq_ok {db after : Database} {table : String} {declarations : List (String × String)}
    (h : db.create table declarations = .ok after) :
    after = if (db.find? table).isSome then db
      else ⟨db.tables ++ [⟨table, declarations.map fun d => .ofDeclaration d.1 d.2, []⟩]⟩ := by
  unfold create at h
  split at h
  next => cases h
  next =>
    split at h
    next => cases h
    next =>
      split at h
      next there =>
        cases h
        rw [if_pos there]
      next fresh =>
        rw [if_neg fresh]
        cases made : Table.create table declarations with
        | error e =>
          rw [made] at h
          cases h
        | ok t =>
          rw [made] at h
          cases h
          rw [Table.create_eq_ok made]

theorem find?_create {db after : Database} {table : String} {declarations : List (String × String)}
    (h : db.create table declarations = .ok after) (name : String) :
    after.find? name = (db.find? name).or
      (if sameName table name then
        some ⟨table, declarations.map fun d => .ofDeclaration d.1 d.2, []⟩
      else none) := by
  rw [create_eq_ok h]
  by_cases there : (db.find? table).isSome
  next =>
    -- whoever asks for the table, under any spelling, finds the one that is there
    rw [if_pos there]
    by_cases same : sameName table name = true
    next =>
      obtain ⟨t, found⟩ := Option.isSome_iff_exists.mp there
      rw [← find?_congr db same, found]
      rfl
    next =>
      rw [if_neg same]
      exact (Option.or_none).symm
  next =>
    rw [if_neg there]
    simp only [find?, List.find?_append, List.find?_singleton]

theorem find?_replace (db : Database) (t : Table) (name : String) :
    (db.replace t).find? name =
      (db.find? name).map fun other => if sameName other.name t.name then t else other := by
  have kept (other : Table) :
      sameName (if sameName other.name t.name then t else other).name name =
        sameName other.name name := by
    split
    next same => exact ((sameName_congr same name).2).symm
    next => rfl
  simp only [find?, replace, List.find?_map, Function.comp_def, kept]

theorem insert_eq_ok {db after : Database} {table : String} {given : List (String × Cell)}
    (h : db.insert table given = .ok after) :
    ∃ t grown, db.find? table = some t ∧ t.insert table given = .ok grown ∧
      after = db.replace grown := by
  unfold insert at h
  cases found : db.find? table with
  | none =>
    rw [found] at h
    cases h
  | some t =>
    rw [found] at h
    cases grows : t.insert table given with
    | error e =>
      simp only [grows] at h
      cases h
    | ok grown =>
      simp only [grows] at h
      cases h
      exact ⟨t, grown, rfl, grows, rfl⟩

theorem find?_insert {db after : Database} {table : String} {given : List (String × Cell)}
    (h : db.insert table given = .ok after) (name : String) :
    if sameName table name then
      ∃ t grown, db.find? name = some t ∧ t.insert table given = .ok grown ∧
        after.find? name = some grown
    else after.find? name = db.find? name := by
  obtain ⟨t, grown, found, grows, rfl⟩ := insert_eq_ok h
  obtain ⟨key, -, rfl⟩ := Table.insert_eq_ok grows
  have asked : sameName t.name table = true := sameName_of_find? found
  split
  next same =>
    refine ⟨t, _, (find?_congr db same).symm.trans found, grows, ?_⟩
    rw [find?_replace, ← find?_congr db same, found]
    simp [sameName]
  next other =>
    rw [find?_replace]
    cases there : db.find? name with
    | none => rfl
    | some u =>
      have named : sameName u.name name = true := sameName_of_find? there
      have apart : ¬ sameName u.name t.name = true := by
        intro same
        rw [sameName_iff] at *
        exact other (asked.symm.trans (same.symm.trans named))
      simp [apart]

end Database

end TableScript
