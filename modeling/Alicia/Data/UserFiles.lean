import Alicia.Data.UserLoading
import Mathlib.Data.Set.Basic

/-!
# The files of the accounts

The name of an account is appended to the path of the users directory as it came, so that its
slashes have their meaning in a path.  The file of a user is its own exactly if there is no slash in
the name, and the name that the file holds leads back to it.
-/

namespace Alicia.Data.UserFiles

open List

/-! ## Paths -/

def slash : UInt8 := 47

def dot : UInt8 := 46

/-- `.json` -/
def extension : Text := [46, 106, 115, 111, 110]

/-- The names of the directories on the way from the root directory. -/
structure Directory where
  location : List Text
  noSlash : ∀ component ∈ location, slash ∉ component

def enter (location : List Text) (component : Text) : List Text :=
  if component = [] ∨ component = [dot] then location
  else if component = [dot, dot] then location.dropLast
  else location ++ [component]

/-- Where a path leads that is appended to the path of a directory; an absolute one replaces it. -/
def locate (root : Directory) (path : Text) : List Text :=
  (path.splitOn slash).foldl enter (if path.head? = some slash then [] else root.location)

def produceDataFilePath (root : Directory) (filename : Text) : List Text :=
  locate root (filename ++ extension)

/-- The direct child of a directory that has this name. -/
def ownFile (root : Directory) (name : Text) : List Text :=
  root.location ++ [name ++ extension]

theorem noSlash_of_mem_splitOn {path component : Text} (h : component ∈ path.splitOn slash) :
    slash ∉ component := by
  rw [splitOn_eq_splitOnP] at h
  induction path generalizing component with
  | nil =>
    rw [splitOnP_nil, mem_singleton] at h
    exact h ▸ not_mem_nil
  | cons byte path ih =>
    rw [splitOnP_cons_eq_if_modifyHead] at h
    by_cases hbyte : (byte == slash) = true
    · rw [if_pos hbyte] at h
      rcases mem_cons.1 h with rfl | h
      · exact not_mem_nil
      · exact ih h
    · rw [if_neg hbyte] at h
      cases hparts : path.splitOnP (· == slash) with
      | nil => exact (splitOnP_ne_nil _ _ hparts).elim
      | cons first rest =>
        rw [hparts, modifyHead_cons] at h
        rw [hparts] at ih
        rcases mem_cons.1 h with rfl | h
        · intro hmem
          rcases mem_cons.1 hmem with heq | hmem
          · exact hbyte (beq_iff_eq.2 heq.symm)
          · exact ih mem_cons_self hmem
        · exact ih (mem_cons_of_mem _ h)

theorem noSlash_enter {location : List Text} {component : Text}
    (hlocation : ∀ name ∈ location, slash ∉ name) (hcomponent : slash ∉ component) :
    ∀ name ∈ enter location component, slash ∉ name := by
  intro name hmem
  unfold enter at hmem
  split at hmem
  · exact hlocation name hmem
  split at hmem
  · exact hlocation name (dropLast_subset _ hmem)
  · rcases mem_append.1 hmem with hmem | hmem
    · exact hlocation name hmem
    · exact mem_singleton.1 hmem ▸ hcomponent

theorem noSlash_locate (root : Directory) (path : Text) :
    ∀ name ∈ locate root path, slash ∉ name := by
  have hwalk (components location : List Text)
      (hcomponents : ∀ component ∈ components, slash ∉ component)
      (hlocation : ∀ name ∈ location, slash ∉ name) :
      ∀ name ∈ components.foldl enter location, slash ∉ name := by
    induction components generalizing location with
    | nil => exact hlocation
    | cons component components ih =>
      obtain ⟨hfirst, hrest⟩ := forall_mem_cons.1 hcomponents
      exact ih _ hrest (noSlash_enter hlocation hfirst)
  refine hwalk _ _ (fun _ => noSlash_of_mem_splitOn) ?_
  split
  · exact nofun
  · exact root.noSlash

theorem slash_mem_append {name : Text} : slash ∈ name ++ extension ↔ slash ∈ name := by
  rw [mem_append]
  exact or_iff_left (by decide)

/-- A name leads to its own file exactly if there is no slash in it. -/
theorem produceDataFilePath_eq_iff (root : Directory) (name : Text) :
    produceDataFilePath root name = ownFile root name ↔ slash ∉ name := by
  constructor
  · intro heq hmem
    refine noSlash_locate root (name ++ extension) (name ++ extension) ?_ (slash_mem_append.2 hmem)
    change _ ∈ produceDataFilePath root name
    rw [heq]
    exact mem_append_right _ mem_cons_self
  · intro hnot
    have hnot' : slash ∉ name ++ extension := mt slash_mem_append.1 hnot
    have hsplit : (name ++ extension).splitOn slash = [name ++ extension] := by
      rw [splitOn_eq_splitOnP]
      refine splitOnP_eq_singleton fun byte hmem => ?_
      exact beq_eq_false_iff_ne.2 fun heq => hnot' (heq ▸ hmem)
    have hhead : (name ++ extension).head? ≠ some slash := fun hhead =>
      hnot' (mem_of_mem_head? hhead)
    have hlength : 5 ≤ (name ++ extension).length := by
      rw [length_append]
      exact Nat.le_add_left ..
    have hne (component : Text) (hshort : component.length < 5) : name ++ extension ≠ component :=
      fun heq => absurd hlength (Nat.not_le.2 (heq ▸ hshort))
    rw [produceDataFilePath, locate, hsplit, if_neg hhead, foldl_cons, foldl_nil, enter,
      if_neg (by simp only [hne [] (by decide), hne [dot] (by decide), or_self, not_false_eq_true]),
      if_neg (hne _ (by decide)), ownFile]

theorem ownFile_injective (root : Directory) : Function.Injective (ownFile root) := by
  intro first second h
  exact append_cancel_right (singleton_inj.1 (append_cancel_left h))

/-! ## Accounts -/

/-- What the job of `ScheduleUserLoad` has for a user: a new one if it cannot be retrieved. -/
def loadUser (name : Text) (file : Option UserFile) (opens : Bool) : User :=
  match retrieveUser name file opens {} with
  | .ok _ user => user
  | .error _ user => { user with name := name }

theorem supply_eq_loadUser (store : UserStore) (name : Text) (opens : Bool) :
    store.supply name opens = loadUser name (store.files name) opens := rfl

variable (users : Directory) (disk : List Text → Option UserFile)

/-- The files that `RetrieveUser` and `StoreUser` use for a user.  Nothing renames a user that was
loaded. -/
inductive Touches (name : Text) : List Text → Prop
  | retrieve : Touches name (produceDataFilePath users name)
  | store (opens : Bool) : Touches name (produceDataFilePath users
      (loadUser name (disk (produceDataFilePath users name)) opens).name)

/-- The name is a file name, and the account in this file, if there is one, has a name that leads
back to the file. -/
structure Proper (name : Text) : Prop where
  noSlash : slash ∉ name
  leadsBack : ∀ user, accountOf name (disk (ownFile users name)) = some user →
    produceDataFilePath users user.name = ownFile users name

theorem touches_iff (name : Text) :
    (∀ location, Touches users disk name location → location = ownFile users name) ↔
      Proper users disk name := by
  constructor
  · intro h
    have hown := h _ .retrieve
    refine ⟨(produceDataFilePath_eq_iff ..).1 hown, fun user huser => ?_⟩
    have hstore := h _ (.store true)
    rw [hown, loadUser] at hstore
    unfold accountOf at huser
    split at huser
    · rename_i hretrieve
      rw [hretrieve] at hstore
      exact Option.some.inj huser ▸ hstore
    · cases huser
  · rintro ⟨hnot, hback⟩ location htouches
    have hown := (produceDataFilePath_eq_iff users name).2 hnot
    cases htouches with
    | retrieve => exact hown
    | store opens =>
      rw [hown, loadUser]
      cases opens with
      | true =>
        split
        · rename_i hretrieve
          exact hback _ (by rw [accountOf, hretrieve])
        · exact hown
      | false =>
        have hthrows : ∃ user, retrieveUser name (disk (ownFile users name)) false {} =
            .error () user := by
          cases disk (ownFile users name) with
          | none => exact ⟨_, rfl⟩
          | some file => cases file <;> exact ⟨_, rfl⟩
        obtain ⟨user, hthrows⟩ := hthrows
        rw [hthrows]
        exact hown

/-! ## Logins -/

/-- What a client sends; a string of a command ends before its first zero byte. -/
structure Login where
  loginId : Text
  authKey : Text
  loginId_noZero : 0 ∉ loginId

/-- The answer on a name and a token, if there is one. -/
abbrev Backend := Text → Text → Option Bool

def localAuthenticationBackend : Backend := fun _ _ => some true

/-- The command passes the checks of `HandleLogin`, and the backend confirms it. -/
def Login.Accepted (backend : Backend) (login : Login) : Prop :=
  login.loginId ≠ [] ∧ login.authKey ≠ [] ∧ backend login.loginId login.authKey = some true

/-- The files of the accepted logins are their own ones, and different names share none. -/
structure OwnFiles (backend : Backend) (logins : Set Login) : Prop where
  own : ∀ login ∈ logins, login.Accepted backend →
    ∀ location, Touches users disk login.loginId location →
      location = ownFile users login.loginId
  separate : ∀ first ∈ logins, ∀ second ∈ logins, first.Accepted backend →
    second.Accepted backend → first.loginId ≠ second.loginId →
    ∀ location, Touches users disk first.loginId location →
      ¬ Touches users disk second.loginId location

/-- The files of any logins are their own ones exactly if the names of the accepted ones are
proper. -/
theorem own_files_iff (backend : Backend) (logins : Set Login) :
    OwnFiles users disk backend logins ↔
      ∀ login ∈ logins, login.Accepted backend → Proper users disk login.loginId := by
  constructor
  · exact fun h login hmem haccepted => (touches_iff ..).1 (h.own login hmem haccepted)
  · intro h
    have hown (login : Login) (hmem : login ∈ logins) (haccepted : login.Accepted backend) :=
      (touches_iff users disk login.loginId).2 (h login hmem haccepted)
    refine ⟨hown, fun first hfirst second hsecond haccepted haccepted' hne location htouches
      htouches' => hne (ownFile_injective users ?_)⟩
    rw [← hown first hfirst haccepted location htouches]
    exact hown second hsecond haccepted' location htouches'

/-- `/data/users` -/
def usersDirectory : Directory where
  location := [[100, 97, 116, 97], [117, 115, 101, 114, 115]]
  noSlash := by decide

/-- The name `../pets/1`. -/
def petLogin : Login where
  loginId := [46, 46, 47, 112, 101, 116, 115, 47, 49]
  authKey := [49]
  loginId_noZero := by decide

/-- The login reads the file of a pet. -/
theorem login_outside_users :
    produceDataFilePath usersDirectory petLogin.loginId =
        [[100, 97, 116, 97], [112, 101, 116, 115], [49] ++ extension] ∧
      ¬ OwnFiles usersDirectory (fun _ => none) localAuthenticationBackend Set.univ := by
  refine ⟨by decide, fun h => ?_⟩
  have hown := h.own petLogin trivial ⟨by decide, by decide, rfl⟩ _ .retrieve
  exact absurd hown (by decide)

end Alicia.Data.UserFiles
