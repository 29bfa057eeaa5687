import Alicia.Naming.Registry

/-!
# Distinct names

A name is reserved by the handler whose check let it through, from the check to the patch.  Names stay
distinct when a check is passed only for names that no record has, wherever the record is, and that no
other handler has reserved.
-/

namespace Alicia.Naming

open Transition Function
open Data (Uid invalidUid)

/-- The names differ in the case of letters at most. -/
def SameName (name other : Text) : Prop := name.map Regex.lower = other.map Regex.lower

/-! ## The checks -/

variable {existing : Text}

theorem not_sameName_of_findCharacter {opens : Uid → Bool} {name : Text}
    {files : List (Uid × RecordFile)}
    (hunique : findCharacter opens (.literals name) files = some invalidUid)
    (huids : ∀ key uid existing, (key, RecordFile.document uid existing) ∈ files → uid ≠ invalidUid)
    {key uid : Uid} (hfile : (key, RecordFile.document uid existing) ∈ files)
    (hopens : opens key = true) : ¬SameName existing name := by
  induction files with
  | nil => cases hfile
  | cons head rest ih =>
    obtain ⟨first, file⟩ := head
    have hrest : ∀ key uid existing, (key, RecordFile.document uid existing) ∈ rest →
        uid ≠ invalidUid := fun key uid existing h => huids key uid existing (List.mem_cons_of_mem _ h)
    unfold findCharacter at hunique
    split at hunique
    next hopened =>
      cases file with
      | malformed => cases hunique
      | document other held =>
        have hother : other ≠ invalidUid := huids first other held List.mem_cons_self
        dsimp only at hunique
        split at hunique
        · exact absurd (Option.some.inj hunique) hother
        next hdiffers =>
          rcases List.mem_cons.1 hfile with hsame | hfile
          · cases hsame
            rwa [Regex.Pattern.matches_literals] at hdiffers
          · exact ih hunique hrest hfile
    next hclosed =>
      rcases List.mem_cons.1 hfile with hsame | hfile
      · cases hsame
        exact absurd hopens hclosed
      · exact ih hunique hrest hfile

variable {files : Directory}

/-- A name that is a plain text is not the name in any file that the check could open. -/
theorem not_sameName_of_isCharacterNameUnique {opens : Uid → Bool} {name : Text}
    (hunique : isCharacterNameUnique opens files name = some true) (hplain : Regex.IsPlain name)
    (huids : ∀ (key uid : Uid) (existing : Text),
      files[key]? = some (.document uid existing) → uid ≠ invalidUid) {key uid : Uid}
    (hfile : files[key]? = some (.document uid existing)) (hopens : opens key = true) :
    ¬SameName existing name := by
  obtain ⟨found, hfound, hinvalid⟩ := Option.map_eq_some_iff.1 hunique
  have huid : found = invalidUid := of_decide_eq_true hinvalid
  subst huid
  rw [retrieveCharacterUidByName, Regex.compile_of_plain hplain, Option.bind_some] at hfound
  refine not_sameName_of_findCharacter hfound ?_
    (Std.ExtTreeMap.mem_toList_iff_getElem?_eq_some.2 hfile) hopens
  intro other stored held hother
  exact huids other stored held (Std.ExtTreeMap.mem_toList_iff_getElem?_eq_some.1 hother)

theorem not_sameName_of_isGuildNameUnique {opens : Uid → Bool} {name : Text}
    (hunique : isGuildNameUnique opens files name = true) {key uid : Uid}
    (hfile : files[key]? = some (.document uid existing)) (hopens : opens key = true) :
    ¬SameName existing name := by
  have hmem := Std.ExtTreeMap.mem_toList_iff_getElem?_eq_some.2 hfile
  have hdiffers : (!opens key || !equalsIgnoreCase existing name) = true :=
    List.all_eq_true.1 hunique _ hmem
  intro hsame
  rw [show equalsIgnoreCase existing name = true from decide_eq_true hsame, hopens] at hdiffers
  cases hdiffers

/-- The check reads the name as it is written. -/
def Kind.Reads (files : Directory) (name : Text) : Kind → Prop
  | character => Regex.IsPlain name ∧
      ∀ (key uid : Uid) (existing : Text),
        files[key]? = some (.document uid existing) → uid ≠ invalidUid
  | guild => True

theorem Kind.not_sameName {kind : Kind} {opens : Uid → Bool} {name : Text}
    (hunique : kind.isUnique opens files name = true) (hreads : kind.Reads files name)
    {key uid : Uid} (hfile : files[key]? = some (.document uid existing))
    (hopens : opens key = true) : ¬SameName existing name := by
  cases kind with
  | character =>
    exact not_sameName_of_isCharacterNameUnique (of_decide_eq_true hunique) hreads.1 hreads.2 hfile
      hopens
  | guild => exact not_sameName_of_isGuildNameUnique hunique hfile hopens

/-! ## The names of a registry -/

def Purpose.target : Purpose → Option Uid
  | create => none
  | rename uid => some uid

/-- The name that a handler has reserved. -/
def Task.name : Task → Text
  | checked _ name => name
  | created _ name => name

/-- The record that a handler is going to name. -/
def Task.target : Task → Option Uid
  | checked purpose _ => purpose.target
  | created uid _ => some uid

/-- The name in an available entry. -/
def heldName : Option Entry → Option Text
  | some ⟨true, name⟩ => some name
  | _ => none

/-- The name in a file that can be parsed. -/
def fileName : Option RecordFile → Option Text
  | some (.document _ name) => some name
  | _ => none

namespace Registry

variable {registry : Registry} {kind : Kind}

/-- The name of a record, in the storage if it is available there, else on disk. -/
def nameOf (registry : Registry) (uid : Uid) : Option Text :=
  (heldName (registry.entries uid)).or (fileName registry.files[uid]?)

def Distinct (registry : Registry) : Prop :=
  ∀ uid other name name', registry.nameOf uid = some name → registry.nameOf other = some name' →
    SameName name name' → uid = other

/-- Where the check is passed, any other record of that name has it in a file that the check can read
and open, and no other handler has reserved the name. -/
def CheckSound (kind : Kind) (registry : Registry) (purpose : Purpose) (name : Text)
    (opens : Uid → Bool) : Prop :=
  kind.isUnique opens registry.files name = true →
    (∀ uid existing, registry.nameOf uid = some existing → SameName existing name →
      purpose.target ≠ some uid →
        kind.Reads registry.files name ∧ opens uid = true ∧
          ∃ stored, registry.files[uid]? = some (.document stored existing)) ∧
    ∀ other phase, registry.tasks other = some phase → ¬SameName phase.name name

/-- A record is created when no record is without a name. -/
def Sound (registry : Registry) : RecordStep → Prop
  | .create _ => ∀ uid existing, registry.nameOf uid = some existing → existing ≠ []
  | _ => True

/-- The names are distinct, and a reserved name is the name of no other record and reserved once. -/
structure Orderly (registry : Registry) : Prop where
  distinct : registry.Distinct
  reserved : ∀ task phase, registry.tasks task = some phase → ∀ uid existing,
    registry.nameOf uid = some existing → SameName existing phase.name → phase.target = some uid
  separate : ∀ task phase other phase', registry.tasks task = some phase →
    registry.tasks other = some phase' → SameName phase.name phase'.name → task = other
  nonempty : ∀ task phase, registry.tasks task = some phase → phase.name ≠ []

/-! ## Changes of one entry and of one handler -/

theorem entries_setEntry_self (uid : Uid) (entry : Entry) :
    (registry.setEntry uid entry).entries uid = some entry := update_self ..

theorem nameOf_setEntry_self (name : Text) (uid : Uid) :
    (registry.setEntry uid { available := true, name := name }).nameOf uid = some name := by
  rw [nameOf, entries_setEntry_self]
  rfl

theorem nameOf_setEntry_of_ne {uid other : Uid} (h : other ≠ uid) (entry : Entry) :
    (registry.setEntry uid entry).nameOf other = registry.nameOf other := by
  rw [nameOf, show (registry.setEntry uid entry).entries other = registry.entries other from
    update_of_ne h _ _]
  rfl

/-- The entry that a lookup makes has no name of its own. -/
theorem nameOf_lookup (uid other : Uid) : (registry.lookup uid).nameOf other = registry.nameOf other := by
  unfold lookup
  split
  next hentry =>
    rcases eq_or_ne other uid with rfl | hne
    · rw [nameOf, nameOf, entries_setEntry_self, hentry]
      rfl
    · exact nameOf_setEntry_of_ne hne {}
  next => rfl

/-- A retrieval takes the name from the file. -/
theorem nameOf_retrieve (uid other : Uid) (opens : Bool) :
    (registry.retrieve uid opens).nameOf other = registry.nameOf other := by
  unfold retrieve
  split
  next hentry hfile =>
    rcases eq_or_ne other uid with rfl | hne
    · rw [nameOf_setEntry_self, nameOf, hentry, hfile]
      rfl
    · exact nameOf_setEntry_of_ne hne _
  next => rfl

theorem nameOf_insert {uid : Uid} {name : Text} (hentry : registry.entries uid = some ⟨true, name⟩)
    (file : RecordFile) (other : Uid) :
    nameOf { registry with files := registry.files.insert uid file } other = registry.nameOf other := by
  rcases eq_or_ne other uid with rfl | hne
  · rw [nameOf, nameOf, hentry]
    rfl
  · rw [nameOf, nameOf, Std.ExtTreeMap.getElem?_insert, if_neg]
    intro hsame
    exact hne (Std.LawfulEqCmp.eq_of_compare hsame).symm

/-- A store writes what is in the entry. -/
theorem nameOf_store (uid other : Uid) (outcome : StoreOutcome) :
    (registry.store uid outcome).nameOf other = registry.nameOf other := by
  unfold store
  split
  next hentry => exact nameOf_insert hentry _ other
  next hentry => exact nameOf_insert hentry _ other
  next => rfl

theorem nameOf_check (task : Nat) (purpose : Purpose) (name : Text) (accepted : Bool)
    (opens : Uid → Bool) (uid : Uid) :
    (registry.check kind task purpose name accepted opens).nameOf uid = registry.nameOf uid := by
  unfold check
  split <;> rfl

theorem tasks_setTask_self (task : Nat) (phase : Option Task) :
    (registry.setTask task phase).tasks task = phase := update_self ..

variable {task : Nat}

theorem tasks_setTask_of_ne {other : Nat} (h : other ≠ task) (phase : Option Task) :
    (registry.setTask task phase).tasks other = registry.tasks other := update_of_ne h _ _

namespace Orderly

/-- A step that changes neither a name nor a handler. -/
theorem of_same (orderly : Orderly registry) {after : Registry}
    (hnames : ∀ uid, after.nameOf uid = registry.nameOf uid) (htasks : after.tasks = registry.tasks) :
    Orderly after := by
  have hsame : after.nameOf = registry.nameOf := funext hnames
  constructor
  · rw [Distinct, hsame]
    exact orderly.distinct
  · rw [htasks, hsame]
    exact orderly.reserved
  · rw [htasks]
    exact orderly.separate
  · rw [htasks]
    exact orderly.nonempty

/-- A handler that ends. -/
theorem release (orderly : Orderly registry) (task : Nat) : Orderly (registry.setTask task none) := by
  have hstill : ∀ other phase, (registry.setTask task none).tasks other = some phase →
      registry.tasks other = some phase := by
    intro other phase hphase
    rcases eq_or_ne other task with rfl | hne
    · rw [tasks_setTask_self] at hphase
      cases hphase
    · rwa [tasks_setTask_of_ne hne] at hphase
  exact
    { distinct := orderly.distinct
      reserved := fun other phase hphase => orderly.reserved other phase (hstill other phase hphase)
      separate := fun first phase second phase' hfirst hsecond =>
        orderly.separate first phase second phase' (hstill _ _ hfirst) (hstill _ _ hsecond)
      nonempty := fun other phase hphase => orderly.nonempty other phase (hstill other phase hphase) }

/-- A handler that has passed its check. -/
theorem reserve (orderly : Orderly registry) {purpose : Purpose} {name : Text}
    (hidle : registry.tasks task = none) (hname : name ≠ [])
    (hfree : ∀ uid existing, registry.nameOf uid = some existing → SameName existing name →
      purpose.target = some uid)
    (hopen : ∀ other phase, registry.tasks other = some phase → ¬SameName phase.name name) :
    Orderly (registry.setTask task (some (.checked purpose name))) := by
  have hcases : ∀ other phase,
      (registry.setTask task (some (.checked purpose name))).tasks other = some phase →
      other = task ∧ phase = .checked purpose name ∨
        other ≠ task ∧ registry.tasks other = some phase := by
    intro other phase hphase
    rcases eq_or_ne other task with rfl | hne
    · rw [tasks_setTask_self] at hphase
      exact .inl ⟨rfl, (Option.some.inj hphase).symm⟩
    · rw [tasks_setTask_of_ne hne] at hphase
      exact .inr ⟨hne, hphase⟩
  constructor
  · exact orderly.distinct
  · intro other phase hphase uid existing hexisting hsame
    obtain ⟨rfl, rfl⟩ | ⟨_, hphase⟩ := hcases other phase hphase
    · exact hfree uid existing hexisting hsame
    · exact orderly.reserved other phase hphase uid existing hexisting hsame
  · intro first phase second phase' hfirst hsecond hsame
    obtain ⟨hfirstTask, rfl⟩ | ⟨_, hearlier⟩ := hcases first phase hfirst
    · obtain ⟨hsecondTask, rfl⟩ | ⟨_, hearlier⟩ := hcases second phase' hsecond
      · exact hfirstTask.trans hsecondTask.symm
      · exact absurd hsame.symm (hopen second phase' hearlier)
    · obtain ⟨_, rfl⟩ | ⟨_, hlater⟩ := hcases second phase' hsecond
      · exact absurd hsame (hopen first phase hearlier)
      · exact orderly.separate first phase second phase' hearlier hlater hsame
  · intro other phase hphase
    obtain ⟨rfl, rfl⟩ | ⟨_, hphase⟩ := hcases other phase hphase
    · exact hname
    · exact orderly.nonempty other phase hphase

theorem check (orderly : Orderly registry) {purpose : Purpose} {name : Text} {accepted : Bool}
    {opens : Uid → Bool} (hsound : CheckSound kind registry purpose name opens) :
    Orderly (registry.check kind task purpose name accepted opens) := by
  unfold Registry.check
  split
  next hpassed =>
    obtain ⟨hidle, _, hvalid, hunique⟩ := hpassed
    obtain ⟨hflushed, hopen⟩ := hsound hunique
    have hname : name ≠ [] := by
      rintro rfl
      cases hvalid
    refine orderly.reserve hidle hname ?_ hopen
    intro uid existing hexisting hsame
    by_contra htarget
    obtain ⟨hreads, hopens, stored, hfile⟩ := hflushed uid existing hexisting hsame htarget
    exact Kind.not_sameName hunique hreads hfile hopens hsame
  next => exact orderly

/-- A record gets a name that no other record has and that no handler has reserved. -/
theorem assign (orderly : Orderly registry) {after : Registry} {uid : Uid} {name : Text}
    (hself : after.nameOf uid = some name)
    (hothers : ∀ other, other ≠ uid → after.nameOf other = registry.nameOf other)
    (htasks : ∀ task phase, after.tasks task = some phase → ∃ earlier,
      registry.tasks task = some earlier ∧ earlier.name = phase.name ∧
        (earlier.target = phase.target ∨ earlier.target = none))
    (hfree : ∀ other existing, other ≠ uid → registry.nameOf other = some existing →
      ¬SameName existing name)
    (hopen : ∀ task phase, after.tasks task = some phase → ¬SameName name phase.name) :
    Orderly after := by
  constructor
  · intro first second held held' hfirst hsecond hsame
    by_cases hfirstUid : first = uid
    · subst hfirstUid
      by_contra hne
      rw [hothers second (Ne.symm hne)] at hsecond
      cases hself.symm.trans hfirst
      exact hfree second held' (Ne.symm hne) hsecond hsame.symm
    · rw [hothers first hfirstUid] at hfirst
      by_cases hsecondUid : second = uid
      · subst hsecondUid
        cases hself.symm.trans hsecond
        exact absurd hsame (hfree first held hfirstUid hfirst)
      · rw [hothers second hsecondUid] at hsecond
        exact orderly.distinct first second held held' hfirst hsecond hsame
  · intro task phase hphase other existing hexisting hsame
    obtain ⟨earlier, hearlier, hname, htarget⟩ := htasks task phase hphase
    by_cases hother : other = uid
    · subst hother
      cases hself.symm.trans hexisting
      exact absurd hsame (hopen task phase hphase)
    · rw [hothers other hother] at hexisting
      have hreserved := orderly.reserved task earlier hearlier other existing hexisting (hname ▸ hsame)
      rcases htarget with htarget | htarget
      · exact htarget.symm.trans hreserved
      · cases htarget.symm.trans hreserved
  · intro first phase second phase' hfirst hsecond hsame
    obtain ⟨earlier, hearlier, hname, _⟩ := htasks first phase hfirst
    obtain ⟨earlier', hearlier', hname', _⟩ := htasks second phase' hsecond
    rw [← hname, ← hname'] at hsame
    exact orderly.separate first earlier second earlier' hearlier hearlier' hsame
  · intro task phase hphase
    obtain ⟨earlier, hearlier, hname, _⟩ := htasks task phase hphase
    exact hname ▸ orderly.nonempty task earlier hearlier

theorem not_sameName_nil {name : Text} (h : name ≠ []) : ¬SameName name [] := by
  intro hsame
  exact h (List.map_eq_nil_iff.1 hsame)

theorem create (orderly : Orderly registry) (hsound : Sound registry (.create task)) :
    Orderly (registry.create task) := by
  unfold Registry.create
  split
  next name hphase =>
    dsimp only
    split
    · have hself : ∀ phase, (setTask (setEntry
          { registry with sequentialUid := registry.sequentialUid + 1 }
          (registry.sequentialUid + 1) { available := true }) task phase).nameOf
            (registry.sequentialUid + 1) = some [] :=
        fun phase => nameOf_setEntry_self [] _
      refine orderly.assign (hself _) ?_ ?_ ?_ ?_
      · intro other hother
        exact nameOf_setEntry_of_ne hother _
      · intro other phase hother
        rcases eq_or_ne other task with rfl | hne
        · rw [tasks_setTask_self] at hother
          cases hother
          exact ⟨_, hphase, rfl, .inr rfl⟩
        · rw [tasks_setTask_of_ne hne] at hother
          exact ⟨phase, hother, rfl, .inl rfl⟩
      · intro other existing _ hexisting
        exact not_sameName_nil (hsound other existing hexisting)
      · intro other phase hother hsame
        rcases eq_or_ne other task with rfl | hne
        · rw [tasks_setTask_self] at hother
          cases hother
          exact not_sameName_nil (orderly.nonempty other _ hphase) hsame.symm
        · rw [tasks_setTask_of_ne hne] at hother
          exact not_sameName_nil (orderly.nonempty other phase hother) hsame.symm
    · have hcounted : Orderly { registry with sequentialUid := registry.sequentialUid + 1 } :=
        orderly.of_same (fun _ => rfl) rfl
      exact hcounted.release task
  next => exact orderly

/-- The patch of a handler names its record, or leaves the name that it has. -/
theorem setName (orderly : Orderly registry) {phase : Task} {uid : Uid}
    (hphase : registry.tasks task = some phase) (htarget : phase.target = some uid)
    {assigned : Text → Text} (hassigned : ∀ old, assigned old = phase.name ∨ assigned old = old) :
    Orderly ((registry.setName uid assigned).setTask task none) := by
  unfold Registry.setName
  split
  next old hentry =>
    rcases hassigned old with hname | hold
    · rw [hname]
      refine orderly.assign (nameOf_setEntry_self phase.name uid) ?_ ?_ ?_ ?_
      · intro other hother
        exact nameOf_setEntry_of_ne hother _
      · intro other later hlater
        rcases eq_or_ne other task with rfl | hne
        · rw [tasks_setTask_self] at hlater
          cases hlater
        · rw [tasks_setTask_of_ne hne] at hlater
          exact ⟨later, hlater, rfl, .inl rfl⟩
      · intro other existing hother hexisting hsame
        have hreserved := orderly.reserved task phase hphase other existing hexisting hsame
        exact hother (Option.some.inj (hreserved.symm.trans htarget))
      · intro other later hlater hsame
        rcases eq_or_ne other task with rfl | hne
        · rw [tasks_setTask_self] at hlater
          cases hlater
        · rw [tasks_setTask_of_ne hne] at hlater
          exact hne (orderly.separate task phase other later hphase hlater hsame).symm
    · have hkept : Orderly (registry.setEntry uid { available := true, name := assigned old }) := by
        refine orderly.of_same ?_ rfl
        intro other
        rcases eq_or_ne other uid with rfl | hne
        · rw [nameOf_setEntry_self, nameOf, hentry, hold]
          rfl
        · exact nameOf_setEntry_of_ne hne _
      exact hkept.release task
  next => exact orderly.release task

theorem patch (orderly : Orderly registry) (task : Nat) : Orderly (registry.patch kind task) := by
  unfold Registry.patch
  split
  next uid name hphase =>
    refine orderly.setName hphase rfl ?_
    intro old
    cases kind with
    | guild => exact .inl rfl
    | character =>
      unfold Kind.assign
      cases old with
      | nil => exact .inl rfl
      | cons b rest => exact .inr rfl
  next uid name hphase => exact orderly.setName hphase rfl fun _ => .inl rfl
  next => exact orderly

theorem step (orderly : Orderly registry) {action : RecordStep} (hsound : Sound registry action) :
    Orderly (registry.step kind action) := by
  cases action with
  | lookup uid =>
    refine orderly.of_same (nameOf_lookup uid) ?_
    unfold Registry.step lookup
    dsimp only
    split <;> rfl
  | retrieve uid opens =>
    refine orderly.of_same (nameOf_retrieve uid · opens) ?_
    unfold Registry.step retrieve
    dsimp only
    split <;> rfl
  | store uid outcome =>
    refine orderly.of_same (nameOf_store uid · outcome) ?_
    unfold Registry.step store
    dsimp only
    split <;> rfl
  | create task => exact orderly.create hsound
  | patch task => exact orderly.patch task
  | cancel task => exact orderly.release task

end Orderly

end Registry

/-! ## The names of the world -/

namespace World

/-- No two characters have the same name, and no two guilds. -/
def Distinct (world : World) : Prop := world.characters.Distinct ∧ world.guilds.Distinct

/-- No handler is between its steps. -/
def Idle (world : World) : Prop :=
  ∀ task, world.characters.tasks task = none ∧ world.guilds.tasks task = none

def Sound (world : World) : NameStep → Prop
  | .createNickname _ nickname _ opens =>
    world.characters.CheckSound .character .create nickname opens
  | .changeNickname _ characterUid newNickname _ opens =>
    world.characters.CheckSound .character (.rename characterUid) newNickname opens
  | .createGuild _ name _ opens => world.guilds.CheckSound .guild .create name opens
  | .character step => world.characters.Sound step
  | .guild step => world.guilds.Sound step

structure Orderly (world : World) : Prop where
  characters : world.characters.Orderly
  guilds : world.guilds.Orderly

theorem Orderly.step {world : World} (orderly : Orderly world) (action : NameStep)
    (hsound : Sound world action) : Orderly (world.step action) := by
  obtain ⟨characters, guilds⟩ := orderly
  cases action with
  | createNickname task nickname accepted opens => exact ⟨characters.check hsound, guilds⟩
  | changeNickname task characterUid newNickname accepted opens =>
    exact ⟨characters.check hsound, guilds⟩
  | createGuild task name accepted opens => exact ⟨characters, guilds.check hsound⟩
  | character action => exact ⟨characters.step hsound, guilds⟩
  | guild action => exact ⟨characters, guilds.step hsound⟩

theorem orderly_of_idle {registry : Registry} (hidle : ∀ task, registry.tasks task = none)
    (hdistinct : registry.Distinct) : registry.Orderly := by
  have hnone : ∀ {task phase}, registry.tasks task = some phase → False := by
    intro task phase hphase
    cases (hidle task).symm.trans hphase
  exact
    { distinct := hdistinct
      reserved := fun _ _ hphase => (hnone hphase).elim
      separate := fun _ _ _ _ hphase => (hnone hphase).elim
      nonempty := fun _ _ hphase => (hnone hphase).elim }

/-- The steps of a handler that creates a character. -/
def creation (task : Nat) (nickname : Text) : List NameStep :=
  [.createNickname task nickname true fun _ => true, .character (.create task),
    .character (.patch task)]

end World

end Alicia.Naming
