import AgentSpec.Connection.Phrase
import AgentSpec.Graph.Basic
import AgentSpec.Text.Casing

/-!
The services that an agent can be connected to, and how a text mentions them.
-/
namespace AgentSpec

structure Service where
  provider : String
  title : String
  fieldName : String
  scopes : List String
  phrases : List Phrase
deriving DecidableEq, Repr

namespace Service

/-- The platform X.  Its bare letter counts only behind a preposition or in front of a noun of the
platform. -/
def x : Service where
  provider := "x"
  title := "X (Twitter)"
  fieldName := "xAuth"
  scopes := ["tweet.read", "tweet.write", "users.read", "offline.access"]
  phrases :=
    ["to", "on", "via", "onto", "in", "from"].map
      (fun word => [.exact word, .spaces, .exact "X"]) ++
    ["post", "posts", "account", "accounts", "thread", "threads", "API", "timeline",
      "followers"].map (fun noun => [.exact "X", .spaces, .exact noun]) ++
    ["twitter", "tweet", "tweets", "tweeting", "x.com"].map fun name => [.anyCase name]

def linkedin : Service where
  provider := "linkedin"
  title := "LinkedIn"
  fieldName := "linkedinAuth"
  scopes := ["openid", "profile", "w_member_social"]
  phrases := [[.anyCase "linked", .maybeSpace, .anyCase "in"]]

def slack : Service where
  provider := "slack"
  title := "Slack"
  fieldName := "slackAuth"
  scopes := ["chat:write", "channels:read"]
  phrases := [[.anyCase "slack"]]

def discord : Service where
  provider := "discord"
  title := "Discord"
  fieldName := "discordAuth"
  scopes := ["identify", "webhook.incoming"]
  phrases := [[.anyCase "discord"]]

def gmail : Service where
  provider := "gmail"
  title := "Gmail"
  fieldName := "gmailAuth"
  scopes := ["https://www.googleapis.com/auth/gmail.send"]
  phrases := [[.anyCase "gmail"], [.anyCase "google", .spaces, .anyCase "mail"]]

def catalog : List Service := [x, linkedin, slack, discord, gmail]

def isMentioned (s : Service) (text : String) : Bool :=
  s.phrases.any (·.occursIn text)

/-- The services of the catalog that a text mentions. -/
def mentioned (text : String) : List Service :=
  catalog.filter (·.isMentioned text)

/-- The service of a provider's name, in any case. -/
def ofProvider? (name : String) : Option Service :=
  catalog.find? fun s => Text.eqIgnoreAsciiCase s.provider (Text.trim name)

/-- The service whose credential a field of the workspace holds. -/
def ofField? (fieldName : String) : Option Service :=
  catalog.find? (·.fieldName == fieldName)

/-- The provider is among the permitted names, in any case. -/
def isPermitted (provider : String) (permitted : List String) : Bool :=
  permitted.any fun name => Text.eqIgnoreAsciiCase (Text.trim name) provider

def connection (s : Service) : Connection where
  provider := s.provider
  title := s.title
  scopes := s.scopes
  fieldName := s.fieldName

/-- The workspace field that holds the credential. -/
def credentialField (s : Service) : Field where
  name := s.fieldName
  title := s.title
  type := .oauth
  description := some (s.title ++ " account used by this agent")

end Service
end AgentSpec
