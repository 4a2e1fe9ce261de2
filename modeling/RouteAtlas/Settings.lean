/-
Settings of a run.

* `Settings`: titles, the shared part of paths, which routes count and how fields are passed.
* `Settings.read`, `Settings.toValue`: settings from and as values. Whatever is not set has a value
  of its own.
* `Settings.override`: settings with the texts that an environment gives; empty texts do not count.
* `Settings.document`: the empty document of a run.
-/
import RouteAtlas.Document

namespace RouteAtlas

/-- The settings of a run. -/
structure Settings where
  title : String := "API"
  version : String := "0.0.1"
  /-- The version of the format. -/
  formatVersion : String := "3.1.0"
  serverUrl : String := "/api"
  /-- The part that all paths share, which a document leaves out. -/
  sharedPath : String := "api/"
  /-- The middleware that marks the routes of the interface. -/
  middlewareGroup : String := "api"
  /-- What the names of routes that serve documentation start with. -/
  docsNames : String := "api-docs"
  /-- The types that stand for the request itself. -/
  requestTypes : List String := ["Request", "Illuminate.Http.Request"]
  /-- The methods whose fields are passed in the query. -/
  queryMethods : List String := ["get", "head"]
  deriving DecidableEq, Repr

namespace Settings

/-- Settings by their fields. -/
def read (fields : List (Value × Value)) : Checked Settings :=
  let standard : Settings := {}
  let text (name : String) (absent : String) :=
    Value.withDefault fields name Value.readText absent
  let texts (name : String) (absent : List String) :=
    Value.withDefault fields name Value.readTexts absent
  Settings.mk
    <$> text "title" standard.title
    <*> text "version" standard.version
    <*> text "openapi_version" standard.formatVersion
    <*> text "server_url" standard.serverUrl
    <*> text "path_prefix" standard.sharedPath
    <*> text "middleware_group" standard.middlewareGroup
    <*> text "docs_route_prefix" standard.docsNames
    <*> texts "request_type_names" standard.requestTypes
    <*> texts "query_methods" standard.queryMethods

/-- Settings as a value. -/
def toValue (s : Settings) : Value :=
  .record [("title", .text s.title), ("version", .text s.version),
    ("openapi_version", .text s.formatVersion), ("server_url", .text s.serverUrl),
    ("path_prefix", .text s.sharedPath), ("middleware_group", .text s.middlewareGroup),
    ("docs_route_prefix", .text s.docsNames), ("request_type_names", .texts s.requestTypes),
    ("query_methods", .texts s.queryMethods)]

/-- A text that an environment gives for a setting; an empty one does not count. -/
def given (text : Option String) (setting : String) : String :=
  (text.filter (· != "")).getD setting

/-- Settings with the title, the version and the address that an environment gives. -/
def override (s : Settings) (title version serverUrl : Option String) : Settings :=
  { s with
    title := given title s.title
    version := given version s.version
    serverUrl := given serverUrl s.serverUrl }

/-- The empty document of a run, with one server. -/
def document (s : Settings) : Document where
  formatVersion := s.formatVersion
  title := s.title
  version := s.version
  servers := [⟨s.serverUrl, none⟩]

end Settings

end RouteAtlas
