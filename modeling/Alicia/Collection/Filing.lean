import Mathlib.Logic.Function.Basic

/-!
# Filings

A filing says which items are filed under which keys.  It is single if no item is filed under two
keys.  Items are added, dropped, moved from one key to another, and a key is dissolved into another
one.

Where the items are the parties that have filings, two parties join by filing each other and part
by dropping each other.
-/

namespace Collection

open Function

variable {K V : Type*}

/-- Which items are filed under which keys. -/
abbrev Filing (K V : Type*) := K → V → Prop

namespace Filing

/-- The item is filed under some key. -/
def Has (filing : Filing K V) (item : V) : Prop := ∃ key, filing key item

/-- No item is filed under two keys. -/
def Single (filing : Filing K V) : Prop :=
  ∀ item first second, filing first item → filing second item → first = second

def add (key : K) (item : V) (filing : Filing K V) : Filing K V := fun k v =>
  filing k v ∨ k = key ∧ v = item

def drop (item : V) (filing : Filing K V) : Filing K V := fun k v => filing k v ∧ v ≠ item

/-- File an item under another key. -/
def move (source target : K) (item : V) (filing : Filing K V) : Filing K V := fun k v =>
  filing k v ∧ ¬(k = source ∧ v = item) ∨ k = target ∧ v = item

/-- File the items of one key under another one. -/
def dissolve (source target : K) (filing : Filing K V) : Filing K V := fun k v =>
  k ≠ source ∧ (filing k v ∨ k = target ∧ filing source v)

variable {filing : Filing K V}

theorem has_add {key : K} {item v : V} : (filing.add key item).Has v ↔ filing.Has v ∨ v = item := by
  constructor
  · rintro ⟨k, hk | ⟨-, hv⟩⟩
    · exact .inl ⟨k, hk⟩
    · exact .inr hv
  · rintro (⟨k, hk⟩ | hv)
    · exact ⟨k, .inl hk⟩
    · exact ⟨key, .inr ⟨rfl, hv⟩⟩

theorem has_drop {item v : V} : (filing.drop item).Has v ↔ filing.Has v ∧ v ≠ item := by
  constructor
  · rintro ⟨k, hk, hv⟩
    exact ⟨⟨k, hk⟩, hv⟩
  · rintro ⟨⟨k, hk⟩, hv⟩
    exact ⟨k, hk, hv⟩

theorem has_move {source target : K} {item v : V} (hitem : filing source item) :
    (filing.move source target item).Has v ↔ filing.Has v := by
  constructor
  · rintro ⟨k, ⟨hk, -⟩ | ⟨-, rfl⟩⟩
    · exact ⟨k, hk⟩
    · exact ⟨source, hitem⟩
  · rintro ⟨k, hk⟩
    by_cases hv : v = item
    · exact ⟨target, .inr ⟨rfl, hv⟩⟩
    · exact ⟨k, .inl ⟨hk, fun h => hv h.2⟩⟩

theorem has_dissolve {source target : K} {v : V} (hne : target ≠ source) :
    (filing.dissolve source target).Has v ↔ filing.Has v := by
  constructor
  · rintro ⟨k, -, hk | ⟨-, hv⟩⟩
    · exact ⟨k, hk⟩
    · exact ⟨source, hv⟩
  · rintro ⟨k, hk⟩
    by_cases hsource : k = source
    · exact ⟨target, hne, .inr ⟨rfl, hsource ▸ hk⟩⟩
    · exact ⟨k, hsource, .inl hk⟩

theorem Single.add {key : K} {item : V} (hsingle : filing.Single)
    (honly : ∀ k, filing k item → k = key) : (filing.add key item).Single := by
  rintro v first second (hfirst | ⟨rfl, rfl⟩) (hsecond | ⟨rfl, hv⟩)
  · exact hsingle v first second hfirst hsecond
  · exact honly first (hv ▸ hfirst)
  · exact (honly second hsecond).symm
  · rfl

theorem Single.drop {item : V} (hsingle : filing.Single) : (filing.drop item).Single := by
  rintro v first second ⟨hfirst, -⟩ ⟨hsecond, -⟩
  exact hsingle v first second hfirst hsecond

theorem Single.move {source target : K} {item : V} (hsingle : filing.Single)
    (hitem : filing source item) : (filing.move source target item).Single := by
  rintro v first second (⟨hfirst, hstays⟩ | ⟨rfl, rfl⟩) (⟨hsecond, hremains⟩ | ⟨rfl, hv⟩)
  · exact hsingle v first second hfirst hsecond
  · subst hv
    exact absurd ⟨hsingle v first source hfirst hitem, rfl⟩ hstays
  · exact absurd ⟨hsingle v second source hsecond hitem, rfl⟩ hremains
  · rfl

theorem Single.dissolve {source target : K} (hsingle : filing.Single) :
    (filing.dissolve source target).Single := by
  rintro v first second ⟨hfirst, hin | ⟨rfl, hin⟩⟩ ⟨hsecond, hout | ⟨hsame, hout⟩⟩
  · exact hsingle v first second hin hout
  · exact absurd (hsingle v first source hin hout) hfirst
  · exact absurd (hsingle v second source hout hin) hsecond
  · exact hsame.symm

/-- What is filed under a key that an added item does not have already. -/
theorem Single.of_add {key k : K} {item : V} (hsingle : (filing.add key item).Single)
    (hk : filing k item) : k = key :=
  hsingle item k key (.inl hk) (.inr ⟨rfl, rfl⟩)

end Filing

/-! ## Parties that file each other -/

/-- Each party has a filing of other parties, and two of them file each other or neither does. -/
structure Mutual (book : V → Filing K V) : Prop where
  symm : ∀ a b, (book a).Has b → (book b).Has a
  irrefl : ∀ a, ¬(book a).Has a
  single : ∀ a, (book a).Single

section Parties

variable [DecidableEq V]

/-- First `a` files `b` under the key, and then `b` files `a`. -/
def join (key : K) (a b : V) (book : V → Filing K V) : V → Filing K V :=
  let first := update book a ((book a).add key b)
  update first b ((first b).add key a)

/-- First `a` drops `b`, and then `b` drops `a`. -/
def part (a b : V) (book : V → Filing K V) : V → Filing K V :=
  let first := update book a ((book a).drop b)
  update first b ((first b).drop a)

variable {book : V → Filing K V}

theorem has_update_add {key : K} {a b x y : V} :
    (update book a ((book a).add key b) x).Has y ↔ (book x).Has y ∨ x = a ∧ y = b := by
  by_cases hx : x = a
  · subst hx
    rw [update_self, Filing.has_add]
    simp
  · rw [update_of_ne hx]
    simp [hx]

theorem has_update_drop {a b x y : V} :
    (update book a ((book a).drop b) x).Has y ↔ (book x).Has y ∧ ¬(x = a ∧ y = b) := by
  by_cases hx : x = a
  · subst hx
    rw [update_self, Filing.has_drop]
    simp
  · rw [update_of_ne hx]
    simp [hx]

theorem has_join {key : K} {a b x y : V} :
    (join key a b book x).Has y ↔ (book x).Has y ∨ x = a ∧ y = b ∨ x = b ∧ y = a := by
  unfold join
  rw [has_update_add, has_update_add, or_assoc]

theorem has_part {a b x y : V} :
    (part a b book x).Has y ↔ (book x).Has y ∧ ¬(x = a ∧ y = b) ∧ ¬(x = b ∧ y = a) := by
  unfold part
  rw [has_update_drop, has_update_drop, and_assoc]

/-- A filing of the same parties may take the place of another one. -/
theorem Mutual.update {a : V} {filing : Filing K V} (hmutual : Mutual book)
    (hhas : ∀ v, filing.Has v ↔ (book a).Has v) (hsingle : filing.Single) :
    Mutual (update book a filing) := by
  have hsame : ∀ x y, (Function.update book a filing x).Has y ↔ (book x).Has y := by
    intro x y
    by_cases hx : x = a
    · subst hx
      rw [update_self]
      exact hhas y
    · rw [update_of_ne hx]
  constructor
  · intro x y hxy
    exact (hsame y x).2 (hmutual.symm x y ((hsame x y).1 hxy))
  · intro x hx
    exact hmutual.irrefl x ((hsame x x).1 hx)
  · intro x
    by_cases hx : x = a
    · subst hx
      rwa [update_self]
    · rw [update_of_ne hx]
      exact hmutual.single x

theorem Mutual.join {key : K} {a b : V} (hmutual : Mutual book) (hne : a ≠ b)
    (ha : ∀ k, book a k b → k = key) (hb : ∀ k, book b k a → k = key) :
    Mutual (join key a b book) := by
  constructor
  · intro x y hxy
    rw [has_join] at hxy ⊢
    obtain hxy | ⟨hx, hy⟩ | ⟨hx, hy⟩ := hxy
    · exact .inl (hmutual.symm x y hxy)
    · exact .inr (.inr ⟨hy, hx⟩)
    · exact .inr (.inl ⟨hy, hx⟩)
  · intro x hx
    rw [has_join] at hx
    obtain hx | ⟨hxa, hxb⟩ | ⟨hxb, hxa⟩ := hx
    · exact hmutual.irrefl x hx
    · exact hne (hxa.symm.trans hxb)
    · exact hne (hxa.symm.trans hxb)
  · intro x
    unfold Collection.join
    by_cases hxb : x = b
    · subst hxb
      rw [update_self, update_of_ne hne.symm]
      exact (hmutual.single x).add hb
    rw [update_of_ne hxb]
    by_cases hxa : x = a
    · subst hxa
      rw [update_self]
      exact (hmutual.single x).add ha
    · rw [update_of_ne hxa]
      exact hmutual.single x

theorem Mutual.part {a b : V} (hmutual : Mutual book) : Mutual (part a b book) := by
  constructor
  · intro x y hxy
    rw [has_part] at hxy ⊢
    obtain ⟨hhas, hab, hba⟩ := hxy
    exact ⟨hmutual.symm x y hhas, fun h => hba h.symm, fun h => hab h.symm⟩
  · intro x hx
    exact hmutual.irrefl x (has_part.1 hx).1
  · intro x
    have hdropped : ∀ c, (Function.update book a ((book a).drop b) c).Single := by
      intro c
      by_cases hc : c = a
      · subst hc
        rw [update_self]
        exact (hmutual.single c).drop
      · rw [update_of_ne hc]
        exact hmutual.single c
    unfold Collection.part
    by_cases hx : x = b
    · subst hx
      rw [update_self]
      exact (hdropped x).drop
    · rw [update_of_ne hx]
      exact hdropped x

/-- What is needed for two parties to join. -/
theorem Mutual.of_join {key : K} {a b : V} (hmutual : Mutual (Collection.join key a b book)) :
    a ≠ b ∧ (∀ k, book a k b → k = key) ∧ ∀ k, book b k a → k = key := by
  have hne : a ≠ b := fun h => hmutual.irrefl a (has_join.2 (.inr (.inl ⟨rfl, h⟩)))
  have hsinglea := hmutual.single a
  have hsingleb := hmutual.single b
  unfold Collection.join at hsinglea hsingleb
  rw [update_of_ne hne, update_self] at hsinglea
  rw [update_self, update_of_ne hne.symm] at hsingleb
  exact ⟨hne, fun k hk => hsinglea.of_add hk, fun k hk => hsingleb.of_add hk⟩

/-- One party cannot drop another one alone. -/
theorem Mutual.of_drop {a b : V} (hmutual : Mutual book)
    (hdropped : Mutual (Function.update book a ((book a).drop b))) : ¬(book a).Has b := by
  intro hab
  have hba := hmutual.symm a b hab
  have hne : b ≠ a := by
    rintro rfl
    exact hmutual.irrefl b hab
  have hkept := hdropped.symm b a (has_update_drop.2 ⟨hba, fun h => hne h.1⟩)
  exact (has_update_drop.1 hkept).2 ⟨rfl, rfl⟩

end Parties

end Collection
