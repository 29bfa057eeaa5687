import Mathlib.Data.List.Basic

/-!
# System content

The registry keeps signed values and saves them in decimal; reading takes a value as an unsigned
number, or else as a boolean.  So a negative value is written by every `SetValue` and refused by the
next `ReadConfig`, and a saved content persists exactly if no value that remains is negative.
-/

namespace Alicia.Registry.SystemContent

open List

/-! ## The file -/

/-- What the YAML library makes of the text of a scalar; `none` is a bad conversion. -/
structure Yaml where
  asUInt32 : String → Option UInt32
  asBool : String → Option Bool

/-- Numbers in decimal are read back, but no negative number as an unsigned one, and no number as a
boolean. -/
structure Yaml.Converts (yaml : Yaml) : Prop where
  asUInt32_decimal (n : UInt32) : yaml.asUInt32 (Int.repr n.toNat) = some n
  asUInt32_negative (n : Int) : n < 0 → yaml.asUInt32 n.repr = none
  asBool_decimal (n : Int) : yaml.asBool n.repr = none

/-- The texts of the keys of an entry; `none` where there is no scalar. -/
structure Node where
  type : Option String
  value : Option String
  name : Option String
  description : Option String

inductive Document where
  | sequence (nodes : List Node)
  | other

structure SystemEntry where
  type : UInt32
  value : Int32
  name : String
  description : String
  deriving DecidableEq

structure SystemContentRegistry where
  entries : List SystemEntry
  file : Option Document

def saveEntry (entry : SystemEntry) : Node where
  type := some (Int.repr entry.type.toNat)
  value := some (Int.repr entry.value.toInt)
  name := some entry.name
  description := some entry.description

/-- A node that nothing was pushed to is no sequence. -/
def document : List SystemEntry → Document
  | [] => .other
  | entry :: entries => .sequence ((entry :: entries).map saveEntry)

def save (registry : SystemContentRegistry) : SystemContentRegistry :=
  { registry with file := some (document registry.entries) }

variable (yaml : Yaml)

def readValue (text : String) : Option Int32 :=
  match yaml.asUInt32 text with
  | some value => some value.toInt32
  | none => (yaml.asBool text).map fun value => if value then 1 else 0

def readEntry (node : Node) : Option SystemEntry := do
  let type ← node.type.bind yaml.asUInt32
  let value ← node.value.bind (readValue yaml)
  let name ← node.name
  let description ← node.description
  return { type, value, name, description }

/-- The entries in front of the node that throws are there already. -/
def readEntries : List Node → List SystemEntry → Except (List SystemEntry) (List SystemEntry)
  | [], entries => .ok entries
  | node :: nodes, entries =>
    match readEntry yaml node with
    | some entry => readEntries nodes (entries ++ [entry])
    | none => .error entries

/-- In an error is the registry that the exception leaves. -/
def readConfig (registry : SystemContentRegistry) :
    Except SystemContentRegistry SystemContentRegistry :=
  match registry.file with
  | none => .ok registry
  | some .other => .ok { registry with entries := [] }
  | some (.sequence nodes) =>
    match readEntries yaml nodes [] with
    | .ok entries => .ok { registry with entries }
    | .error entries => .error { registry with entries }

/-! ## Values -/

def getValue (registry : SystemContentRegistry) (type : UInt32) : Option Int32 :=
  (registry.entries.find? fun entry => entry.type = type).map SystemEntry.value

/-- The first entry of a type has the value, or a new last one. -/
def setEntry (type : UInt32) (value : Int32) : List SystemEntry → List SystemEntry
  | [] => [{ type, value, name := "", description := "" }]
  | entry :: entries =>
    if entry.type = type then { entry with value } :: entries
    else entry :: setEntry type value entries

def setValue (registry : SystemContentRegistry) (type : UInt32) (value : Int32) :
    SystemContentRegistry :=
  save { registry with entries := setEntry type value registry.entries }

inductive Role where
  | user
  | op
  | gameMaster
  deriving DecidableEq

/-- `none` is a character whose record is not available. -/
structure UpdateSystemContent where
  role : Option Role
  key : UInt32
  value : UInt32

/-- The caller may change the content. -/
def UpdateSystemContent.permitted (command : UpdateSystemContent) : Bool :=
  match command.role with
  | none | some .user => false
  | some .op | some .gameMaster => true

def handleUpdateSystemContent (registry : SystemContentRegistry) (command : UpdateSystemContent) :
    SystemContentRegistry :=
  if command.permitted then setValue registry command.key command.value.toInt32 else registry

def serve (commands : List UpdateSystemContent) (registry : SystemContentRegistry) :
    SystemContentRegistry :=
  commands.foldl handleUpdateSystemContent registry

/-! ## Reading what was saved -/

variable {yaml}

theorem toNat_toUInt32 {value : Int32} (h : 0 ≤ value) :
    (value.toUInt32.toNat : Int) = value.toInt := by
  rw [Int32.toNat_toUInt32_of_le h, Int32.toNatClampNeg]
  exact Int.toNat_of_nonneg (Int32.le_iff_toInt_le.1 h)

theorem readEntry_saveEntry (hyaml : yaml.Converts) (entry : SystemEntry) :
    readEntry yaml (saveEntry entry) = if 0 ≤ entry.value then some entry else none := by
  have htype := hyaml.asUInt32_decimal entry.type
  have hvalue : readValue yaml (Int.repr entry.value.toInt) =
      if 0 ≤ entry.value then some entry.value else none := by
    by_cases h : 0 ≤ entry.value
    · have hdecimal := hyaml.asUInt32_decimal entry.value.toUInt32
      rw [toNat_toUInt32 h] at hdecimal
      rw [readValue, hdecimal, if_pos h]
      rfl
    · have hlt : entry.value.toInt < 0 :=
        Int.not_le.1 fun hle => h (Int32.le_iff_toInt_le.2 hle)
      rw [readValue, hyaml.asUInt32_negative _ hlt, hyaml.asBool_decimal, if_neg h]
      rfl
  rw [readEntry, saveEntry]
  simp only [Option.bind_some, htype, hvalue]
  split <;> rfl

theorem readEntries_saved (hyaml : yaml.Converts) {content : List SystemEntry}
    (h : ∀ entry ∈ content, 0 ≤ entry.value) (entries : List SystemEntry) :
    readEntries yaml (content.map saveEntry) entries = .ok (entries ++ content) := by
  induction content generalizing entries with
  | nil => rw [map_nil, readEntries, append_nil]
  | cons entry content ih =>
    rw [forall_mem_cons] at h
    rw [map_cons, readEntries, readEntry_saveEntry hyaml, if_pos h.1]
    exact (ih h.2 _).trans (by rw [append_assoc, singleton_append])

theorem readEntries_negative (hyaml : yaml.Converts) {content : List SystemEntry}
    (h : ∃ entry ∈ content, ¬ 0 ≤ entry.value) (entries : List SystemEntry) :
    ∃ front, readEntries yaml (content.map saveEntry) entries = .error front := by
  induction content generalizing entries with
  | nil => exact absurd h (by rintro ⟨_, hmem, -⟩; cases hmem)
  | cons entry content ih =>
    rw [map_cons, readEntries, readEntry_saveEntry hyaml]
    by_cases hvalue : 0 ≤ entry.value
    · rw [if_pos hvalue]
      obtain ⟨other, hmem, hother⟩ := h
      refine ih ⟨other, ?_, hother⟩ _
      exact (mem_cons.1 hmem).resolve_left (by rintro rfl; exact hother hvalue)
    · exact ⟨entries, by rw [if_neg hvalue]⟩

/-- A registry with this content, which is saved. -/
def saved (entries : List SystemEntry) : SystemContentRegistry :=
  save { entries, file := none }

variable (yaml) in
/-- The file of the registry can be read, by a new registry and by this one, and every value is the
one it was. -/
def Persists (registry : SystemContentRegistry) : Prop :=
  ∀ entries, ∃ reread, readConfig yaml { registry with entries } = .ok reread ∧
    ∀ type, getValue reread type = getValue registry type

theorem persists_saved_iff (hyaml : yaml.Converts) (content : List SystemEntry) :
    Persists yaml (saved content) ↔ ∀ entry ∈ content, 0 ≤ entry.value := by
  constructor
  · intro h
    by_contra hnot
    have hnegative : ∃ entry ∈ content, ¬ 0 ≤ entry.value := by
      simpa only [not_forall, exists_prop] using hnot
    obtain ⟨front, hfront⟩ := readEntries_negative hyaml hnegative []
    obtain ⟨reread, hreread, -⟩ := h []
    match content, hnegative with
    | first :: rest, _ =>
      rw [readConfig] at hreread
      simp only [saved, save, document, hfront] at hreread
      cases hreread
  · intro h entries
    match content with
    | [] => exact ⟨_, rfl, fun _ => rfl⟩
    | first :: rest =>
      refine ⟨saved (first :: rest), ?_, fun _ => rfl⟩
      rw [readConfig]
      simp only [saved, save, document, readEntries_saved hyaml h, nil_append]

/-! ## What the commands leave -/

/-- A command on the entries. -/
def update (entries : List SystemEntry) (command : UpdateSystemContent) : List SystemEntry :=
  if command.permitted then setEntry command.key command.value.toInt32 entries else entries

theorem serve_saved (commands : List UpdateSystemContent) (content : List SystemEntry) :
    serve commands (saved content) = saved (commands.foldl update content) := by
  induction commands generalizing content with
  | nil => rfl
  | cons command commands ih =>
    rw [serve, foldl_cons, foldl_cons, ← ih]
    change serve commands _ = _
    rw [handleUpdateSystemContent, update]
    split <;> rfl

/-- The keys whose values are set. -/
def keys (commands : List UpdateSystemContent) : List UInt32 :=
  (commands.filter UpdateSystemContent.permitted).map UpdateSystemContent.key

/-- The value that a key is set to last. -/
def lastValue : List UpdateSystemContent → UInt32 → Option UInt32
  | [], _ => none
  | command :: commands, key =>
    match lastValue commands key with
    | some value => some value
    | none => if command.permitted ∧ command.key = key then some command.value else none

/-- The entries that are not the first one of a type whose value is set. -/
def untouched : List UInt32 → List SystemEntry → List SystemEntry
  | _, [] => []
  | keys, entry :: entries =>
    if entry.type ∈ keys then untouched (keys.filter (· ≠ entry.type)) entries
    else entry :: untouched keys entries

/-- No value that remains is negative as a signed number. -/
structure NoneNegative (content : List SystemEntry) (commands : List UpdateSystemContent) :
    Prop where
  set : ∀ key value, lastValue commands key = some value → value < 2147483648
  kept : ∀ entry ∈ untouched (keys commands) content, 0 ≤ entry.value

theorem lastValue_eq_none (commands : List UpdateSystemContent) (key : UInt32) :
    lastValue commands key = none ↔ key ∉ keys commands := by
  induction commands with
  | nil => exact ⟨fun _ => not_mem_nil, fun _ => rfl⟩
  | cons command commands ih =>
    rw [lastValue, keys, filter_cons]
    cases hlast : lastValue commands key with
    | some value =>
      have hmem : key ∈ keys commands := not_not.1 fun hnot => by
        rw [ih.2 hnot] at hlast
        cases hlast
      refine ⟨nofun, fun hnot => absurd ?_ hnot⟩
      split
      · exact mem_cons_of_mem _ hmem
      · exact hmem
    | none =>
      have hnot := ih.1 hlast
      by_cases hpermitted : command.permitted
      · simp only [hpermitted, true_and, if_true, map_cons, mem_cons, not_or]
        change _ ↔ _ ∧ key ∉ keys commands
        simp only [hnot, not_false_eq_true, and_true, ite_eq_right_iff, reduceCtorEq, imp_false]
        exact not_congr eq_comm
      · simp only [hpermitted, false_and, if_false, Bool.false_eq_true]
        exact iff_of_true trivial hnot

theorem untouched_of_mem {keys : List UInt32} {entry : SystemEntry} (h : entry.type ∈ keys)
    (entries : List SystemEntry) : untouched keys (entry :: entries) =
      untouched (keys.filter (· ≠ entry.type)) entries :=
  if_pos h

theorem untouched_of_not_mem {keys : List UInt32} {entry : SystemEntry} (h : entry.type ∉ keys)
    (entries : List SystemEntry) :
    untouched keys (entry :: entries) = entry :: untouched keys entries :=
  if_neg h

theorem untouched_setEntry (type : UInt32) (value : Int32) (keys : List UInt32)
    (content : List SystemEntry) (property : Int32 → Prop) :
    (∀ entry ∈ untouched keys (setEntry type value content), property entry.value) ↔
      (∀ entry ∈ untouched (type :: keys) content, property entry.value) ∧
        (type ∉ keys → property value) := by
  induction content generalizing keys with
  | nil =>
    by_cases hmem : type ∈ keys <;> simp [setEntry, untouched, hmem]
  | cons entry content ih =>
    by_cases htype : entry.type = type
    · subst htype
      have hset : setEntry entry.type value (entry :: content) =
          { entry with value } :: content := if_pos rfl
      have hfilter : (entry.type :: keys).filter (· ≠ entry.type) =
          keys.filter (· ≠ entry.type) := filter_cons_of_neg (by simp)
      rw [hset, untouched_of_mem mem_cons_self, hfilter]
      by_cases hmem : entry.type ∈ keys
      · rw [@untouched_of_mem keys { entry with value } hmem]
        exact ⟨fun h => ⟨h, fun hnot => absurd hmem hnot⟩, And.left⟩
      · have hkeys : keys.filter (· ≠ entry.type) = keys :=
          filter_eq_self.2 fun key hkey => by
            simpa using fun heq : key = entry.type => hmem (heq ▸ hkey)
        rw [@untouched_of_not_mem keys { entry with value } hmem, forall_mem_cons,
          hkeys]
        exact ⟨fun h => ⟨h.2, fun _ => h.1⟩, fun h => ⟨h.2 hmem, h.1⟩⟩
    · have hset : setEntry type value (entry :: content) =
          entry :: setEntry type value content := if_neg htype
      rw [hset]
      by_cases hmem : entry.type ∈ keys
      · have hfilter : (type :: keys).filter (· ≠ entry.type) =
            type :: keys.filter (· ≠ entry.type) :=
          filter_cons_of_pos (by simpa using Ne.symm htype)
        have hkept : type ∈ keys.filter (· ≠ entry.type) ↔ type ∈ keys := by
          simp [mem_filter, Ne.symm htype]
        rw [untouched_of_mem hmem, untouched_of_mem (mem_cons_of_mem _ hmem), ih, hfilter,
          hkept]
      · have hnot : entry.type ∉ type :: keys := by simp [htype, hmem]
        rw [untouched_of_not_mem hmem, untouched_of_not_mem hnot, forall_mem_cons,
          forall_mem_cons, ih, and_assoc]

theorem nonneg_toInt32 (value : UInt32) : 0 ≤ value.toInt32 ↔ value < 2147483648 := by
  rw [Int32.le_iff_toInt_le, UInt32.lt_iff_toNat_lt]
  change 0 ≤ value.toBitVec.toInt ↔ value.toBitVec.toNat < 2147483648
  rw [BitVec.toInt_eq_toNat_cond]
  have hlt := value.toBitVec.isLt
  split <;> omega

theorem noneNegative_cons (content : List SystemEntry) (command : UpdateSystemContent)
    (commands : List UpdateSystemContent) :
    NoneNegative (update content command) commands ↔
      NoneNegative content (command :: commands) := by
  by_cases hpermitted : command.permitted
  · have hkeys : keys (command :: commands) = command.key :: keys commands := by
      rw [keys, filter_cons, if_pos hpermitted, map_cons]
      rfl
    have hlast (key : UInt32) : lastValue (command :: commands) key =
        match lastValue commands key with
        | some value => some value
        | none => if command.key = key then some command.value else none := by
      rw [lastValue]
      simp only [hpermitted, true_and]
    have hupdate : update content command =
        setEntry command.key command.value.toInt32 content := if_pos hpermitted
    rw [hupdate]
    constructor
    · rintro ⟨hset, hkept⟩
      obtain ⟨hold, hnew⟩ := (untouched_setEntry _ _ _ _ (0 ≤ ·)).1 hkept
      refine ⟨fun key value hvalue => ?_, hkeys ▸ hold⟩
      rw [hlast] at hvalue
      cases hlater : lastValue commands key with
      | some later =>
        rw [hlater] at hvalue
        exact Option.some.inj hvalue ▸ hset key later hlater
      | none =>
        rw [hlater] at hvalue
        obtain ⟨rfl, hlast⟩ := Option.ite_none_right_eq_some.1 hvalue
        exact Option.some.inj hlast ▸
          (nonneg_toInt32 _).1 (hnew ((lastValue_eq_none ..).1 hlater))
    · rintro ⟨hset, hkept⟩
      rw [hkeys] at hkept
      refine ⟨fun key value hvalue => hset key value (by rw [hlast, hvalue]),
        (untouched_setEntry _ _ _ _ (0 ≤ ·)).2 ⟨hkept, fun hnot => ?_⟩⟩
      refine (nonneg_toInt32 _).2 (hset command.key _ ?_)
      rw [hlast, (lastValue_eq_none ..).2 hnot]
      exact if_pos rfl
  · have hkeys : keys (command :: commands) = keys commands := by
      rw [keys, filter_cons, if_neg hpermitted]
      rfl
    have hlast (key : UInt32) :
        lastValue (command :: commands) key = lastValue commands key := by
      rw [lastValue]
      cases lastValue commands key <;> simp [hpermitted]
    have hupdate : update content command = content := if_neg hpermitted
    rw [hupdate]
    exact ⟨fun h => ⟨fun key => hlast key ▸ h.set key, hkeys ▸ h.kept⟩,
      fun h => ⟨fun key => hlast key ▸ h.set key, hkeys ▸ h.kept⟩⟩

theorem untouched_nil (content : List SystemEntry) : untouched [] content = content := by
  induction content with
  | nil => rfl
  | cons entry content ih => rw [untouched, if_neg not_mem_nil, ih]

theorem nonneg_iff (content : List SystemEntry) (commands : List UpdateSystemContent) :
    (∀ entry ∈ commands.foldl update content, 0 ≤ entry.value) ↔ NoneNegative content commands := by
  induction commands generalizing content with
  | nil =>
    refine ⟨fun h => ⟨fun _ _ => nofun, ?_⟩, fun h => ?_⟩
    · exact (untouched_nil content).symm ▸ h
    · exact untouched_nil content ▸ h.kept
  | cons command commands ih => rw [foldl_cons, ih, noneNegative_cons]

/-- The content persists exactly if no value that remains is negative. -/
theorem persists_iff (hyaml : yaml.Converts) (content : List SystemEntry)
    (commands : List UpdateSystemContent) :
    Persists yaml (serve commands (saved content)) ↔ NoneNegative content commands := by
  rw [serve_saved, persists_saved_iff hyaml, nonneg_iff]

/-- A library that reads decimal numbers and the two names of the booleans. -/
def Yaml.decimal : Yaml where
  asUInt32 text :=
    let number := Nat.ofDigitChars 10 text.toList 0
    if text.toList.all Char.isDigit ∧ number < 4294967296 then some (.ofNat number) else none
  asBool text :=
    if text = "true" then some true else if text = "false" then some false else none

theorem isDigit_or_minus {number : Int} {c : Char} (h : c ∈ number.repr.toList) :
    c.isDigit ∨ c = '-' := by
  cases number with
  | ofNat n =>
    have hdigits : (Int.ofNat n).repr.toList = Nat.toDigits 10 n := Nat.toList_repr
    exact .inl (Nat.isDigit_of_mem_toDigits (by decide) (by decide) (hdigits ▸ h))
  | negSucc n =>
    have hdigits : (Int.negSucc n).repr.toList = '-' :: Nat.toDigits 10 (n + 1) := by
      rw [Int.repr, String.toList_append, Nat.toList_repr]
      rfl
    rw [hdigits, mem_cons] at h
    exact h.symm.imp_left (Nat.isDigit_of_mem_toDigits (by decide) (by decide))

theorem Yaml.converts_decimal : Yaml.decimal.Converts where
  asUInt32_decimal n := by
    have hdigits : (Int.repr n.toNat).toList = Nat.toDigits 10 n.toNat := Nat.toList_repr
    have hall : (Nat.toDigits 10 n.toNat).all Char.isDigit := all_eq_true.2 fun _ =>
      Nat.isDigit_of_mem_toDigits (by decide) (by decide)
    rw [decimal]
    dsimp only
    rw [hdigits, Nat.ofDigitChars_ten_toDigits, if_pos ⟨hall, n.toNat_lt⟩, UInt32.ofNat_toNat]
  asUInt32_negative n hn := by
    cases n with
    | ofNat n => exact absurd hn (Int.not_lt.2 (Int.natCast_nonneg n))
    | negSucc n =>
      have hminus : '-' ∈ (Int.negSucc n).repr.toList := by
        rw [Int.repr, String.toList_append]
        exact mem_append_left _ (by decide)
      refine if_neg fun h => ?_
      exact absurd (all_eq_true.1 h.1 '-' hminus) (by decide)
  asBool_decimal n := by
    have hne (text : String) (c : Char) (hmem : c ∈ text.toList)
        (hc : ¬ (c.isDigit ∨ c = '-')) : n.repr ≠ text := by
      rintro rfl
      exact hc (isDigit_or_minus hmem)
    rw [decimal]
    dsimp only
    rw [if_neg (hne "true" 't' (by decide) (by decide)),
      if_neg (hne "false" 'f' (by decide) (by decide))]

/-- What a staff client sends for a value. -/
def staff (key value : UInt32) : UpdateSystemContent where
  role := some .op
  key := key
  value := value

theorem persists_iff_largest : Persists .decimal (serve [staff 3 2147483647] (saved [])) := by
  refine (persists_iff Yaml.converts_decimal [] [staff 3 2147483647]).2 ⟨fun key value h => ?_, ?_⟩
  · obtain ⟨-, hvalue⟩ := Option.ite_none_right_eq_some.1 h
    exact Option.some.inj hvalue ▸ by decide
  · decide

/-- This value is saved as a negative number, which neither conversion reads. -/
theorem negative_value_lost : ¬ Persists .decimal (serve [staff 3 4294967295] (saved [])) := by
  rw [serve_saved, persists_saved_iff Yaml.converts_decimal]
  decide

end Alicia.Registry.SystemContent
