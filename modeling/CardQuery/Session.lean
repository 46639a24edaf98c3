import CardQuery.Build.Basic

/-!
# Sessions

A session validates and builds queries with the same settings and the same
operators throughout.
-/

namespace CardQuery

structure Session where
  settings : Settings
  registry : Registry

/-- Why a session gives no query for a text. -/
inductive SessionError where
  /-- The text has a number that is not read. -/
  | number (error : NumberError)
  | unknownStrategy (name : Text)
  | build (error : BuildError)
  | render (error : RenderError)
deriving DecidableEq, Repr

def SessionError.message : SessionError → Text
  | number error => error.message
  | unknownStrategy name => "Unknown strategy: " ++ name
  | build error => error.message
  | render error => error.message

namespace Session

/-- The session with the given operators, or with the standard ones in place of
none. -/
def make (settings : Settings) (registry : Registry) : Session :=
  ⟨settings, registry.orElse Registry.standard⟩

/-- What is known about a query, whose number of results may be given. -/
def validate (session : Session) (query : Text)
    (count : Option Refine.ResultCount) : Validation :=
  (Validator.make session.registry session.settings).validate query count

/-- The query for a text, built with the named strategy and perhaps a format. -/
def build (session : Session) (text strategy : Text) (format : Option Text) :
    Except SessionError Built := do
  let reading ← (Reading.ofText text).mapError .number
  let strategy ←
    (Strategy.ofName? strategy).elim (.error (.unknownStrategy strategy)) .ok
  let options :=
    { BuildOptions.standard with strategy, format := format.map Text.trim }
  ((Builder.make session.registry session.settings).build
    reading options).mapError .build

def query (session : Session) (text : Text) : Except SessionError Text := do
  let reading ← (Reading.ofText text).mapError .number
  (Mapping.query (reading.mappings session.registry)).mapError .render

end Session

end CardQuery
