import PullReport.Settings.Resolve

/-!
# The token of the settings

Three places may hold a token, and they are asked in order: the settings, the environment, the
store. An entry that is blank is of no use, so it should not keep the later places from being asked.
Only the environment is looked at in that way. Whatever the settings say is taken as it is, and so
is what the store says in the end: there a blank entry is taken for a token. Everywhere else the
first token that is not blank is the one that is used.

## Main definitions

* `Settings.tokenSources`: what the three places hold.
* `Settings.usableToken?`: the first token that is not blank.
* `Settings.TakesBlank`: a blank entry is taken for a token.

## Main results

* `Settings.resolvedToken?_of_takesBlank`: a blank token that is taken is the one that is used.
* `Settings.resolvedToken?_eq_usableToken?_iff`: when the first token that is not blank is used.
-/

namespace PullReport

namespace Settings

open Text

variable {settings : Settings} {environment : Environment} {store : Option TokenStore}
  {tree : FileTree} {token : String}

/-- What the places hold in which a token may be, in the order in which they are asked. A store that
is not there or cannot be read holds nothing. -/
def tokenSources (settings : Settings) (environment : Environment) (store : Option TokenStore)
    (tree : FileTree) : List (Option String) :=
  [settings.token, environment .token, store.bind fun place => (place.load tree).toOption.join]

/-- The first token that is not blank. -/
def usableToken? (settings : Settings) (environment : Environment) (store : Option TokenStore)
    (tree : FileTree) : Option String :=
  (settings.tokenSources environment store tree).findSome? nonBlank?

/-- A blank entry is taken for a token. The environment is passed over if it has nothing but blanks
to say, but neither are the settings, nor the store behind them. -/
inductive TakesBlank (settings : Settings) (environment : Environment) (store : Option TokenStore)
    (tree : FileTree) (token : String) : Prop where
  | ofSettings (given : settings.token = some token) (blank : isBlankText token.toList = true)
  | ofStore {place : TokenStore} (silent : settings.token = none)
    (unset : nonBlank? (environment .token) = none) (located : store = some place)
    (stored : place.load tree = .ok (some token)) (blank : isBlankText token.toList = true)

/-! ### The first usable token -/

theorem isBlankText_of_usableToken?
    (h : settings.usableToken? environment store tree = some token) :
    isBlankText token.toList = false := by
  obtain ⟨front, source, back, -, hsource, -⟩ := List.findSome?_eq_some_iff.1 h
  exact (nonBlank?_eq_some_iff.1 hsource).2

theorem usableToken?_eq :
    settings.usableToken? environment store tree =
      (nonBlank? settings.token <|> nonBlank? (environment .token) <|>
        nonBlank? (storedToken? store tree)) := by
  have hstored : (store.bind fun place => (place.load tree).toOption.join) =
      storedToken? store tree := by
    cases store with
    | none => rfl
    | some place =>
      rw [storedToken?, Option.bind_some]
      cases place.load tree <;> rfl
  rw [usableToken?, tokenSources, hstored]
  simp only [List.findSome?_cons, List.findSome?_nil]
  cases nonBlank? settings.token <;> cases nonBlank? (environment .token) <;>
    cases nonBlank? (storedToken? store tree) <;> rfl

theorem storedToken?_eq_some_iff :
    storedToken? store tree = some token ↔
      ∃ place, store = some place ∧ place.load tree = .ok (some token) := by
  cases store with
  | none => simp [storedToken?]
  | some place =>
    rw [storedToken?]
    cases hload : place.load tree <;> simp [hload]

/-! ### The token that is used -/

theorem TakesBlank.isBlankText (h : TakesBlank settings environment store tree token) :
    isBlankText token.toList = true := by
  cases h with
  | ofSettings given blank => exact blank
  | ofStore silent unset located stored blank => exact blank

/-- A blank token that is taken is the one that is used. -/
theorem resolvedToken?_of_takesBlank (h : TakesBlank settings environment store tree token) :
    settings.resolvedToken? environment store tree = some token := by
  rw [resolvedToken?]
  cases h with
  | ofSettings given blank => rw [given]; rfl
  | ofStore silent unset located stored blank =>
    rw [silent, unset, storedToken?_eq_some_iff.2 ⟨_, located, stored⟩]
    rfl

/-- A value that is not blank counts as it is. -/
theorem nonBlank?_eq_self {value : Option String}
    (h : ∀ text, value = some text → isBlankText text.toList = false) :
    nonBlank? value = value := by
  cases value with
  | none => rfl
  | some text => exact nonBlank?_eq_some_iff.2 ⟨rfl, h text rfl⟩

/-- **The token that is used** is the first that is not blank, unless a blank one is taken. -/
theorem resolvedToken?_eq_usableToken?_iff :
    settings.resolvedToken? environment store tree =
        settings.usableToken? environment store tree ↔
      ∀ token, ¬ TakesBlank settings environment store tree token := by
  constructor
  · intro heq token htakes
    have husable : settings.usableToken? environment store tree = some token :=
      heq.symm.trans (resolvedToken?_of_takesBlank htakes)
    have hblank := htakes.isBlankText
    rw [isBlankText_of_usableToken? husable] at hblank
    cases hblank
  · intro hnone
    have hsettings : nonBlank? settings.token = settings.token :=
      nonBlank?_eq_self fun given hgiven =>
        Bool.eq_false_iff.2 fun hblank => hnone given (.ofSettings hgiven hblank)
    rw [usableToken?_eq, hsettings, resolvedToken?]
    cases hsilent : settings.token with
    | some given => rfl
    | none =>
      cases hunset : nonBlank? (environment .token) with
      | some given => rfl
      | none =>
        -- nothing is left but the store, and what it has is not blank
        refine (nonBlank?_eq_self fun stored hstored => ?_).symm
        obtain ⟨place, hlocated, hload⟩ := storedToken?_eq_some_iff.1 hstored
        exact Bool.eq_false_iff.2 fun hblank =>
          hnone stored (.ofStore hsilent hunset hlocated hload hblank)

end Settings

end PullReport
