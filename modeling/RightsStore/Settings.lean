import RightsStore.Dialect

namespace RightsStore

open Text

structure Environment where
  databaseUrl : Option String := none
  databaseEcho : Option String := none
  environment : Option String := none
  logLevel : Option String := none

inductive Deployment
  | development
  | production
  | testing
  deriving DecidableEq, Repr

namespace Deployment

def name : Deployment → String
  | .development => "DevelopmentConfig"
  | .production => "ProductionConfig"
  | .testing => "TestingConfig"

def ofEnvironment : String → Deployment
  | "production" => .production
  | "testing" => .testing
  | _ => .development

def defaultLogLevel : Deployment → String
  | .development => "DEBUG"
  | .production => "WARNING"
  | .testing => "INFO"

end Deployment

structure Settings where
  deployment : Deployment
  databaseUrl : String
  databaseEcho : Bool
  environment : String
  logLevel : String
  deriving DecidableEq, Repr

def trueWords : List String := ["y", "yes", "t", "true", "on", "1"]

def falseWords : List String := ["n", "no", "f", "false", "off", "0"]

/-- The truth that a text names in any case, or the text in lower case; an empty text is false. -/
def truth (text : String) : Except String Bool :=
  let word := String.ofList (lower text.toList)
  if word = "" then .ok false
  else if trueWords.contains word then .ok true
  else if falseWords.contains word then .ok false
  else .error word

def truthMessage (word : String) : String := "Invalid truth value: " ++ word

namespace Settings

def defaultUrl : String := "sqlite:///lcp.db"

def testingUrl : String := "sqlite:///test_lcp.db"

def load (env : Environment) : Except String Settings := do
  let echo ← truth (env.databaseEcho.getD "")
  let environment := env.environment.getD "development"
  let deployment := Deployment.ofEnvironment environment
  let databaseUrl :=
    if deployment = .testing then testingUrl else env.databaseUrl.getD defaultUrl
  return {
    deployment, databaseUrl, databaseEcho := echo, environment
    logLevel := env.logLevel.getD deployment.defaultLogLevel }

def dialect (s : Settings) : Dialect := .ofSetting s.databaseUrl.toList

def isPostgresql (s : Settings) : Bool := s.dialect = .postgres

def isSqlite (s : Settings) : Bool := s.dialect = .sqlite

end Settings

end RightsStore
