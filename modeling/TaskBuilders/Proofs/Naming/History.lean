import TaskBuilders.Proofs.Naming.Namer
import TaskBuilders.Proofs.Naming.Qualified

/-!
# Names over a history of requests

A namer is asked for names and told to pin names, in any order and any number of times. A key that
is pinned anew leaves its old name but goes on owning it, so the owners tell who ever had a name.

* `Namer.Serves` — the four things that a request can do
* `Namer.owners_iff_held` — the owner of a name is the key that has had it
* `Namer.get?_names_after` — a key that is not pinned anew keeps its name
* `Namer.names_over_history` — names tell keys apart over the whole history, stay until they are pinned
  anew, and are pinned unless another key has had them
-/

namespace TaskBuilders.Naming

/-- What a namer can be asked for. -/
inductive NameRequest where
  | result (id : String)
  | container (id : String)
  | claim (id qualified : String)
  | claimContainer (id qualified : String)
deriving Repr, DecidableEq

namespace NameRequest

/-- The key whose name is asked for or pinned. -/
def key : NameRequest → String
  | .result id => id
  | .container id => containerKey id
  | .claim id _ => id
  | .claimContainer id _ => containerKey id

/-- The name that is to be pinned. -/
def pin? : NameRequest → Option String
  | .result _ => none
  | .container _ => none
  | .claim _ qualified => some (identOf qualified)
  | .claimContainer _ qualified => some (identOf qualified)

end NameRequest

/-- A qualified name, or whether a name was pinned. -/
inductive NameAnswer where
  | name (qualified : String)
  | pinned (success : Bool)
deriving Repr, DecidableEq

namespace Namer

/-- The answer to a request and the state after it. -/
def serve (n : Namer) : NameRequest → NameAnswer × Namer
  | .result id => (.name (n.resultName id).1, (n.resultName id).2)
  | .container id => (.name (n.containerName id).1, (n.containerName id).2)
  | .claim id qualified => (.pinned (n.claim id qualified).1, (n.claim id qualified).2)
  | .claimContainer id qualified =>
    (.pinned (n.claimContainer id qualified).1, (n.claimContainer id qualified).2)

/-- The state after several requests. -/
def after (n : Namer) (rs : List NameRequest) : Namer := rs.foldl (fun n r => (n.serve r).2) n

variable {n : Namer} {r : NameRequest} {rs : List NameRequest} {key ident : String}

theorem after_cons (n : Namer) (r : NameRequest) (rs : List NameRequest) :
    n.after (r :: rs) = (n.serve r).2.after rs := rfl

theorem after_append (n : Namer) (rs rs' : List NameRequest) :
    n.after (rs ++ rs') = (n.after rs).after rs' := List.foldl_append

/-! ## What one request does -/

/-- What a request can do: it is answered with the name that its key has or with a free one, or it
pins a name, unless the name is taken. -/
inductive Serves (n : Namer) (r : NameRequest) (x : NameAnswer × Namer) : Prop where
  | known {ident : String} (asks : r.pin? = none) (named : n.names.get? r.key = some ident)
      (eq : x = (.name (qualify n.package ident), n))
  | given {ident : String} (asks : r.pin? = none) (unnamed : n.names.get? r.key = none)
      (free : n.takenFor r.key ident = false)
      (eq : x = (.name (qualify n.package ident), n.assign r.key ident))
  | refused {ident : String} (pins : r.pin? = some ident) (taken : n.takenFor r.key ident = true)
      (eq : x = (.pinned false, n))
  | pinned {ident : String} (pins : r.pin? = some ident) (free : n.takenFor r.key ident = false)
      (eq : x = (.pinned true, n.assign r.key ident))

theorem serves_mint (n : Namer) (asks : r.pin? = none) (preferred source : String) :
    Serves n r (.name (qualify n.package (n.mint r.key preferred source).1),
      (n.mint r.key preferred source).2) := by
  cases h : n.names.get? r.key with
  | some ident => exact .known asks h (by simp [mint, h])
  | none =>
    exact .given asks h (n.takenFor_choose r.key preferred source) (by simp [mint, h])

theorem serves_claimKey (n : Namer) {qualified : String} (pins : r.pin? = some (identOf qualified)) :
    Serves n r (.pinned (n.claimKey r.key qualified).1, (n.claimKey r.key qualified).2) := by
  cases h : n.takenFor r.key (identOf qualified) with
  | true => exact .refused pins h (by simp [claimKey, h])
  | false => exact .pinned pins h (by simp [claimKey, h])

theorem serves_serve (n : Namer) (r : NameRequest) : Serves n r (n.serve r) := by
  cases r with
  | result id => exact serves_mint (r := .result id) n rfl _ _
  | container id => exact serves_mint (r := .container id) n rfl _ _
  | claim id qualified => exact serves_claimKey (r := .claim id qualified) n rfl
  | claimContainer id qualified => exact serves_claimKey (r := .claimContainer id qualified) n rfl

/-- A request changes nothing, or gives its key a name that no other key owns. -/
theorem serve_state (n : Namer) (r : NameRequest) :
    (n.serve r).2 = n ∨
    ∃ ident, n.takenFor r.key ident = false ∧ (n.serve r).2 = n.assign r.key ident := by
  cases n.serves_serve r with
  | known _ _ h => exact Or.inl (by rw [h])
  | given _ _ hfree h => exact Or.inr ⟨_, hfree, by rw [h]⟩
  | refused _ _ h => exact Or.inl (by rw [h])
  | pinned _ hfree h => exact Or.inr ⟨_, hfree, by rw [h]⟩

theorem Owned.serve (h : n.Owned) (r : NameRequest) : (n.serve r).2.Owned := by
  rcases n.serve_state r with he | ⟨ident, hfree, he⟩
  · rwa [he]
  · rw [he]
    exact h.assign hfree

theorem package_serve (n : Namer) (r : NameRequest) : (n.serve r).2.package = n.package := by
  rcases n.serve_state r with he | ⟨ident, _, he⟩
  · rw [he]
  · rw [he]
    rfl

/-- A name keeps its owner. -/
theorem get?_owners_serve (h : n.owners.get? ident = some key) (r : NameRequest) :
    (n.serve r).2.owners.get? ident = some key := by
  rcases n.serve_state r with he | ⟨i, hfree, he⟩
  · rwa [he]
  · rw [he]
    show (n.owners.insert i r.key).get? ident = some key
    rw [Dict.get?_insert]
    by_cases hi : ident = i
    · -- only the owner itself can be given the name again
      have hkey : key = r.key := by
        refine Classical.byContradiction fun hne => ?_
        rw [← hi, takenFor_eq_true_iff.2 ⟨key, h, hne⟩] at hfree
        cases hfree
      rw [if_pos hi, hkey]
    · rw [if_neg hi, h]

/-- A name that gets its owner is the owner's name from then on. -/
theorem get?_owners_of_serve (h : (n.serve r).2.owners.get? ident = some key) :
    n.owners.get? ident = some key ∨ (n.serve r).2.names.get? key = some ident := by
  rcases n.serve_state r with he | ⟨i, _, he⟩
  · rw [he] at h
    exact Or.inl h
  · rw [he] at h ⊢
    rcases Dict.get?_insert_cases h with ⟨rfl, rfl⟩ | h
    · exact Or.inr (Dict.get?_insert_self _ _ _)
    · exact Or.inl h

/-- A key that is not pinned keeps its name. -/
theorem get?_names_serve (h : n.names.get? key = some ident)
    (hpin : r.key = key → (n.serve r).1 ≠ .pinned true) :
    (n.serve r).2.names.get? key = some ident := by
  cases n.serves_serve r with
  | known _ _ he => rwa [he]
  | @given i _ hunnamed _ he =>
    have hne : key ≠ r.key := by
      rintro rfl
      rw [h] at hunnamed
      cases hunnamed
    rw [he]
    exact (Dict.get?_insert_of_ne _ _ hne).trans h
  | refused _ _ he => rwa [he]
  | pinned _ _ he =>
    have hne : key ≠ r.key := fun hk => hpin hk.symm (by rw [he])
    rw [he]
    exact (Dict.get?_insert_of_ne _ _ hne).trans h

/-- A name that is answered is the name of the request's key. -/
theorem names_of_answer {name : String} (h : (n.serve r).1 = .name name) :
    ∃ ident, (n.serve r).2.names.get? r.key = some ident ∧ name = qualify n.package ident := by
  cases n.serves_serve r with
  | known _ hnamed he =>
    rw [he] at h ⊢
    exact ⟨_, hnamed, (NameAnswer.name.inj h).symm⟩
  | given _ _ _ he =>
    rw [he] at h ⊢
    exact ⟨_, Dict.get?_insert_self _ _ _, (NameAnswer.name.inj h).symm⟩
  | refused _ _ he => rw [he] at h; cases h
  | pinned _ _ he => rw [he] at h; cases h

/-- A key that has a name is answered with it. -/
theorem answer_of_names (hasks : r.pin? = none) (h : n.names.get? r.key = some ident) :
    (n.serve r).1 = .name (qualify n.package ident) := by
  cases n.serves_serve r with
  | known _ hnamed he =>
    obtain rfl := Option.some.inj (h.symm.trans hnamed)
    rw [he]
  | given _ hunnamed _ _ => rw [h] at hunnamed; cases hunnamed
  | refused hpins _ _ => rw [hasks] at hpins; cases hpins
  | pinned hpins _ _ => rw [hasks] at hpins; cases hpins

/-- A pin is refused exactly when another key owns the name, and then nothing changes. -/
theorem answer_of_pins (hpins : r.pin? = some ident) :
    ∃ success, (n.serve r).1 = .pinned success ∧
      (success = false ↔ ∃ owner, owner ≠ r.key ∧ n.owners.get? ident = some owner) ∧
      (success = false → (n.serve r).2 = n) := by
  have htaken : n.takenFor r.key ident = true ↔
      ∃ owner, owner ≠ r.key ∧ n.owners.get? ident = some owner := by
    rw [takenFor_eq_true_iff]
    exact exists_congr fun _ => and_comm
  cases n.serves_serve r with
  | known hasks _ _ => rw [hasks] at hpins; cases hpins
  | given hasks _ _ _ => rw [hasks] at hpins; cases hpins
  | refused hpins' ht he =>
    obtain rfl := Option.some.inj (hpins.symm.trans hpins')
    rw [he]
    exact ⟨false, rfl, ⟨fun _ => htaken.1 ht, fun _ => rfl⟩, fun _ => rfl⟩
  | pinned hpins' hfree he =>
    obtain rfl := Option.some.inj (hpins.symm.trans hpins')
    rw [he, ← htaken, hfree]
    exact ⟨true, rfl, ⟨nofun, nofun⟩, nofun⟩

/-! ## What a history leaves -/

theorem Owned.after (h : n.Owned) (rs : List NameRequest) : (n.after rs).Owned := by
  induction rs generalizing n with
  | nil => exact h
  | cons r rs ih => exact ih (h.serve r)

theorem package_after (n : Namer) (rs : List NameRequest) : (n.after rs).package = n.package := by
  induction rs generalizing n with
  | nil => rfl
  | cons r rs ih => rw [after_cons, ih, package_serve]

theorem get?_owners_after (h : n.owners.get? ident = some key) (rs : List NameRequest) :
    (n.after rs).owners.get? ident = some key := by
  induction rs generalizing n with
  | nil => exact h
  | cons r rs ih => exact ih (get?_owners_serve h r)

/-- A key has had a name at some time. -/
def Held (n : Namer) (rs : List NameRequest) (key ident : String) : Prop :=
  ∃ earlier later, rs = earlier ++ later ∧ (n.after earlier).names.get? key = some ident

theorem held_of_owners (h : (n.after rs).owners.get? ident = some key) :
    n.owners.get? ident = some key ∨ Held n rs key ident := by
  induction rs generalizing n with
  | nil => exact Or.inl h
  | cons r rs ih =>
    rcases ih h with ho | ⟨earlier, later, rfl, hname⟩
    · refine (get?_owners_of_serve ho).imp id fun hname => ?_
      exact ⟨[r], rs, rfl, hname⟩
    · exact Or.inr ⟨r :: earlier, later, rfl, hname⟩

/-- **The owner of a name is the key that has had it.** -/
theorem owners_iff_held (package sourceRoot : String) (rs : List NameRequest) (key ident : String) :
    ((new package sourceRoot).after rs).owners.get? ident = some key ↔
      Held (new package sourceRoot) rs key ident := by
  constructor
  · intro h
    exact (held_of_owners h).resolve_left nofun
  · rintro ⟨earlier, later, rfl, hname⟩
    rw [after_append]
    exact get?_owners_after ((owned_new package sourceRoot).after earlier _ _ hname) later

/-- A request was answered with a name at some time. -/
def Answered (n : Namer) (rs : List NameRequest) (r : NameRequest) (name : String) : Prop :=
  ∃ earlier later, rs = earlier ++ r :: later ∧ ((n.after earlier).serve r).1 = .name name

theorem Answered.held {name : String} (h : Answered n rs r name) :
    ∃ ident, Held n rs r.key ident ∧ name = qualify n.package ident := by
  obtain ⟨earlier, later, rfl, hname⟩ := h
  obtain ⟨ident, hident, rfl⟩ := names_of_answer hname
  refine ⟨ident, ⟨earlier ++ [r], later, by simp, ?_⟩, by rw [package_after]⟩
  rw [after_append]
  exact hident

/-- A key was pinned at some time. -/
def Pinned (n : Namer) (rs : List NameRequest) (key : String) : Prop :=
  ∃ earlier r later, rs = earlier ++ r :: later ∧ r.key = key ∧
    ((n.after earlier).serve r).1 = .pinned true

/-- **A key that is not pinned anew keeps its name.** -/
theorem get?_names_after (h : n.names.get? key = some ident) (hpin : ¬ Pinned n rs key) :
    (n.after rs).names.get? key = some ident := by
  induction rs generalizing n with
  | nil => exact h
  | cons r rs ih =>
    refine ih (get?_names_serve h fun hk hanswer => hpin ⟨[], r, rs, rfl, hk, hanswer⟩) ?_
    rintro ⟨earlier, s, later, rfl, hk, hanswer⟩
    exact hpin ⟨r :: earlier, s, later, rfl, hk, hanswer⟩

/-- Requests that were answered with one name are about one key. -/
theorem key_eq_of_answered {package sourceRoot name : String} {r s : NameRequest}
    (hr : Answered (new package sourceRoot) rs r name)
    (hs : Answered (new package sourceRoot) rs s name) : r.key = s.key := by
  obtain ⟨i, hi, rfl⟩ := hr.held
  obtain ⟨j, hj, hij⟩ := hs.held
  obtain rfl := qualify_inj.1 hij
  rw [← owners_iff_held] at hi hj
  exact Option.some.inj (hi.symm.trans hj)

/-- **Names over a history.** Keys have different names at every time, and names that were ever
answered tell types and containers apart; a name that was answered is answered again as long as its
key is not pinned anew; and a name is pinned unless another key has ever had it, in which case nothing
changes. -/
theorem names_over_history (package sourceRoot : String) (rs : List NameRequest) :
    let n₀ := new package sourceRoot
    let n := n₀.after rs
    (∀ k l ident, n.names.get? k = some ident → n.names.get? l = some ident → k = l) ∧
    (∀ a b name, Answered n₀ rs (.result a) name → Answered n₀ rs (.result b) name → a = b) ∧
    (∀ a b name, Answered n₀ rs (.container a) name → Answered n₀ rs (.container b) name →
      a = b) ∧
    (∀ a b name, Answered n₀ rs (.result a) name → Answered n₀ rs (.container b) name →
      a = containerKey b) ∧
    (∀ earlier r between name s, rs = earlier ++ r :: between →
      ((n₀.after earlier).serve r).1 = .name name →
      ¬ Pinned ((n₀.after earlier).serve r).2 between r.key →
      s.pin? = none → s.key = r.key → (n.serve s).1 = .name name) ∧
    (∀ s ident, s.pin? = some ident → ∃ success, (n.serve s).1 = .pinned success ∧
      (success = false ↔ ∃ owner, owner ≠ s.key ∧ Held n₀ rs owner ident) ∧
      (success = false → (n.serve s).2 = n)) := by
  intro n₀ n
  refine ⟨fun k l ident hk hl => ((owned_new package sourceRoot).after rs).eq_of_names hk hl,
    fun a b name ha hb => key_eq_of_answered ha hb,
    fun a b name ha hb => containerKey_inj.1 (key_eq_of_answered ha hb),
    fun a b name ha hb => key_eq_of_answered ha hb, ?_, ?_⟩
  · intro earlier r between name s hrs hname hpin hasks hkey
    obtain ⟨ident, hident, rfl⟩ := names_of_answer hname
    have hn : n = ((n₀.after earlier).serve r).2.after between := by
      show n₀.after rs = _
      rw [hrs, after_append, after_cons]
    have hnow := get?_names_after hident hpin
    rw [← hn, ← hkey] at hnow
    rw [answer_of_names hasks hnow, package_after, package_after]
  · intro s ident hpins
    obtain ⟨success, hanswer, hrefused, hsame⟩ := answer_of_pins (n := n) hpins
    refine ⟨success, hanswer, hrefused.trans ?_, hsame⟩
    exact exists_congr fun owner => and_congr_right fun _ => owners_iff_held _ _ _ _ _

end Namer

end TaskBuilders.Naming
