import Alicia.Naming.Uniqueness

/-!
# Finding a character by name

`RetrieveCharacterUidByName` for any name.  The regular expressions of the standard library are a
parameter: the constructor gives nothing where it throws, and so does a match.
-/

namespace Alicia.Naming

open Data (Uid invalidUid)

/-! ## The search -/

/-- An entry of the directory of the characters, as the search reads it. -/
inductive CharacterFile
  /-- A directory, or a file that cannot be opened. -/
  | closed
  /-- A file that is no JSON, or that holds no text as `name`. -/
  | malformed
  /-- No uid stands for one that cannot be read. -/
  | document (uid : Option Uid) (name : Text)
  deriving DecidableEq

/-- What the loop does with an entry. -/
inductive Visit
  | next
  | failed
  | found (uid : Uid)
  deriving DecidableEq

def CharacterFile.visit (regexMatch : Text → Option Bool) : CharacterFile → Visit
  | closed => .next
  | malformed => .failed
  | document uid existingCharacterName =>
    match regexMatch existingCharacterName with
    | none => .failed
    | some false => .next
    | some true => uid.elim .failed .found

/-- The loop of `RetrieveCharacterUidByName`. -/
def searchFiles (regexMatch : Text → Option Bool) : List CharacterFile → Option Uid
  | [] => some invalidUid
  | file :: rest =>
    match file.visit regexMatch with
    | .next => searchFiles regexMatch rest
    | .failed => none
    | .found uid => some uid

section Regexes

-- The constructor of `std::regex`, and `std::regex_match`.
variable (regex : Text → Option (Text → Option Bool))

/-- `RetrieveCharacterUidByName` over the entries in the order of the directory. -/
def retrieveByName (files : List CharacterFile) (name : Text) : Option Uid :=
  (regex name).bind fun regexMatch => searchFiles regexMatch files

/-- `IsCharacterNameUnique` over the entries in the order of the directory. -/
def isNameUnique (files : List CharacterFile) (name : Text) : Option Bool :=
  (retrieveByName regex files name).map fun uid => uid == invalidUid

end Regexes

/-! ## The files of a registry -/

/-- The grammar of letters, digits and brackets. -/
def plainRegex (name : Text) : Option (Text → Option Bool) :=
  (Regex.compile name).map fun rg text => some (rg.Matches Regex.lower text)

def RecordFile.opened : RecordFile → CharacterFile
  | malformed => .malformed
  | document uid name => .document (some uid) name

def entries (opens : Uid → Bool) (files : List (Uid × RecordFile)) : List CharacterFile :=
  files.map fun file => if opens file.1 then file.2.opened else .closed

theorem searchFiles_entries (opens : Uid → Bool) (rg : Regex.Pattern UInt8)
    (files : List (Uid × RecordFile)) :
    searchFiles (fun text => some (rg.Matches Regex.lower text)) (entries opens files) =
      findCharacter opens rg files := by
  induction files with
  | nil => rfl
  | cons head rest ih =>
    obtain ⟨key, file⟩ := head
    rw [entries] at ih
    cases hopens : opens key with
    | false => simp [searchFiles, findCharacter, CharacterFile.visit, entries, hopens, ih]
    | true =>
      rw [entries, List.map_cons, if_pos hopens]
      cases file with
      | malformed =>
        simp [searchFiles, findCharacter, CharacterFile.visit, hopens, RecordFile.opened]
      | document uid existing =>
        rw [RecordFile.opened]
        by_cases hmatches : rg.Matches Regex.lower existing
        · simp [searchFiles, findCharacter, CharacterFile.visit, hopens, hmatches]
        · simpa [searchFiles, findCharacter, CharacterFile.visit, hopens, hmatches] using ih

/-- The search in the files of a registry is the search in their entries. -/
theorem retrieveCharacterUidByName_eq (opens : Uid → Bool) (files : Directory) (name : Text) :
    retrieveCharacterUidByName opens files name =
      retrieveByName plainRegex (entries opens files.toList) name := by
  unfold retrieveCharacterUidByName retrieveByName plainRegex
  cases Regex.compile name with
  | none => rfl
  | some rg => exact (searchFiles_entries opens rg files.toList).symm

/-! ## Where the search ends -/

theorem equalsIgnoreCase_iff {lhs rhs : Text} :
    equalsIgnoreCase lhs rhs = true ↔ SameName lhs rhs :=
  decide_eq_true_iff

/-- The first entry behind which the search does not go on. -/
def stop (regexMatch : Text → Option Bool) (files : List CharacterFile) : Option CharacterFile :=
  files.find? fun file => file.visit regexMatch != .next

theorem searchFiles_eq (regexMatch : Text → Option Bool) (files : List CharacterFile) :
    searchFiles regexMatch files =
      match (stop regexMatch files).map (·.visit regexMatch) with
      | some (.found uid) => some uid
      | some _ => none
      | none => some invalidUid := by
  induction files with
  | nil => rfl
  | cons file rest ih =>
    cases hvisit : file.visit regexMatch <;> simp [searchFiles, stop, hvisit]
    exact ih

/-- A character of the name is stored. -/
def IsStored (files : List CharacterFile) (name : Text) : Prop :=
  ∃ uid existing, CharacterFile.document uid existing ∈ files ∧ SameName existing name

/-- A character of the name is stored with the uid. -/
def IsStoredAs (files : List CharacterFile) (name : Text) (uid : Uid) : Prop :=
  ∃ existing, CharacterFile.document (some uid) existing ∈ files ∧ SameName existing name

theorem IsStoredAs.isStored {files : List CharacterFile} {name : Text} {uid : Uid}
    (h : IsStoredAs files name uid) : IsStored files name :=
  ⟨some uid, h⟩

/-- The uid is a right answer for the name. -/
def IsAnswer (files : List CharacterFile) (name : Text) (uid : Uid) : Prop :=
  IsStoredAs files name uid ∨ uid = invalidUid ∧ ¬IsStored files name

/-- The search gives a right answer, and so does the check of uniqueness. -/
structure FindsExactly (regex : Text → Option (Text → Option Bool)) (files : List CharacterFile)
    (name : Text) : Prop where
  retrieved : ∃ uid, retrieveByName regex files name = some uid ∧ IsAnswer files name uid
  unique : ∃ isUnique, isNameUnique regex files name = some isUnique ∧
    (isUnique = true ↔ ¬IsStored files name)

/-- The name is an expression, and the entry where the search for it ends is a file of the name.
Where it ends nowhere, or at a file of the uid 0, there is no character of the name. -/
def Undisturbed (regex : Text → Option (Text → Option Bool)) (files : List CharacterFile)
    (name : Text) : Prop :=
  ∃ regexMatch, regex name = some regexMatch ∧
    match stop regexMatch files with
    | some (.document (some uid) existing) =>
      regexMatch existing = some true ∧
        (if uid = invalidUid then ¬IsStored files name else IsStoredAs files name uid)
    | some _ => False
    | none => ¬IsStored files name

section Search

variable {regex : Text → Option (Text → Option Bool)} {files : List CharacterFile} {name : Text}

theorem isAnswer_invalidUid : IsAnswer files name invalidUid ∧ ¬IsStored files name ↔
    ¬IsStored files name :=
  ⟨fun h => h.2, fun h => ⟨.inr ⟨rfl, h⟩, h⟩⟩

theorem isAnswer_of_ne {uid : Uid} (h : uid ≠ invalidUid) :
    IsAnswer files name uid ↔ IsStoredAs files name uid :=
  ⟨fun hanswer => hanswer.resolve_right fun hinvalid => h hinvalid.1, .inl⟩

/-- What the search and the check make of an answer. -/
theorem findsExactly_of_retrieved {uid : Uid} (h : retrieveByName regex files name = some uid) :
    FindsExactly regex files name ↔
      if uid = invalidUid then ¬IsStored files name else IsStoredAs files name uid := by
  have hunique : isNameUnique regex files name = some (uid == invalidUid) := by
    simp [isNameUnique, h]
  constructor
  · intro hfinds
    obtain ⟨found, hfound, hanswer⟩ := hfinds.retrieved
    obtain ⟨isUnique, hisUnique, hiff⟩ := hfinds.unique
    cases h.symm.trans hfound
    cases hunique.symm.trans hisUnique
    split
    next hinvalid => exact hiff.1 (beq_iff_eq.2 hinvalid)
    next hvalid => exact (isAnswer_of_ne hvalid).1 hanswer
  · intro hcondition
    split at hcondition
    next hinvalid =>
      exact ⟨⟨uid, h, .inr ⟨hinvalid, hcondition⟩⟩, _, hunique,
        iff_of_true (beq_iff_eq.2 hinvalid) hcondition⟩
    next hvalid =>
      refine ⟨⟨uid, h, .inl hcondition⟩, _, hunique, iff_of_false ?_ ?_⟩
      · simpa using hvalid
      · exact fun hnot => hnot hcondition.isStored

theorem not_findsExactly_of_failed (h : retrieveByName regex files name = none) :
    ¬FindsExactly regex files name := by
  intro hfinds
  obtain ⟨uid, hfound, _⟩ := hfinds.retrieved
  exact absurd (h.symm.trans hfound) (Option.some_ne_none uid).symm

end Search

end Alicia.Naming
