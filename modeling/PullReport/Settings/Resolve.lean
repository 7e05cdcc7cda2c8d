import PullReport.Settings.Basic
import PullReport.TokenStore

/-!
# Resolving settings

Where the configuration file is silent, the environment, the stored token and defaults speak.

## Main definitions

* `Settings.resolvedToken?`: the token with which the API is asked.
* `Settings.resolvedApiUrl`: where the API is.
* `Settings.resolvedClientId?`: the identity of this program at logins.
-/

namespace PullReport

namespace Settings

/-- Where the API is unless the settings say otherwise. -/
def defaultApiUrl : String := "https://api.github.com"

/-- Where the API is. Slashes at the end are dropped, since paths are added to it. -/
def resolvedApiUrl (settings : Settings) : String :=
  let url := (settings.apiUrl.getD defaultApiUrl).toList
  String.ofList (url.reverse.dropWhile (· = '/')).reverse

/-- The identity of this program at logins. -/
def resolvedClientId? (settings : Settings) (environment : Environment) : Option String :=
  settings.clientId <|> environment .clientId

/-- The stored token, if there is a store and it holds one that can be read. -/
def storedToken? (store : Option TokenStore) (tree : FileTree) : Option String :=
  match store with
  | none => none
  | some store =>
    match store.load tree with
    | .ok token => token
    | .error _ => none

/-- The token with which the API is asked: that of the settings, else that of the environment unless
it is blank, else the stored one. -/
def resolvedToken? (settings : Settings) (environment : Environment) (store : Option TokenStore)
    (tree : FileTree) : Option String :=
  settings.token <|> nonBlank? (environment .token) <|> storedToken? store tree

end Settings

end PullReport
