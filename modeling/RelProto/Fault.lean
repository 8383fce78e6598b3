import RelProto.Text.Literal

/-! What can go wrong. A fault is a kind of failure under the contexts that were added to it; its
text lists them from the outermost inwards, and it belongs to a category as soon as one member of
the chain does. -/
namespace RelProto

open Text (Outline quoted)

/-- An error reported by something outside this library: its text, the texts of its causes, and its
layout in diagnostics. -/
structure Foreign where
  message : String
  sources : List String
  outline : Outline
  deriving DecidableEq

namespace Foreign

/-- An error known only by its text and the texts of its causes. -/
def chain (message : String) (sources : List String) : Foreign :=
  ⟨message, sources, ["Chain(" ++ quoted message ++ ")"]⟩

/-- An error of the output medium known only by its text. -/
def other (message : String) : Foreign :=
  ⟨message, [], Outline.record "Custom" [("kind", ["Other"]), ("error", [quoted message])]⟩

/-- The text of the error followed by those of its causes. -/
def trail (error : Foreign) : String := ": ".intercalate (error.message :: error.sources)

end Foreign

namespace Fault

inductive Kind where
  | wrapped (error : Foreign)
  | adhoc (message : String)
  | invalidArguments (message : String)
  | invalidConfig (message : String)
  | connectionFailure (error : Foreign)
  | queryFailure (error : Foreign)
  | invalidCatalogOrder (key : String)
  | invalidRelation (message : String)
  | outputIo (path : String) (error : Foreign)
  deriving DecidableEq

/-- The kinds of failure a caller can ask for. -/
inductive Category where
  | invalidArguments
  | invalidConfig
  | connectionFailure
  | queryFailure
  | invalidCatalogOrder
  | invalidRelation
  | outputIo
  deriving DecidableEq

def Category.all : List Category :=
  [.invalidArguments, .invalidConfig, .connectionFailure, .queryFailure, .invalidCatalogOrder,
   .invalidRelation, .outputIo]

namespace Kind

def message : Kind → String
  | wrapped error => error.message
  | adhoc message => message
  | invalidArguments message => "invalid arguments: " ++ message
  | invalidConfig message => "invalid configuration: " ++ message
  | connectionFailure error => "connection failed: " ++ error.trail
  | queryFailure error => "query failed: " ++ error.trail
  | invalidCatalogOrder key =>
    "catalog rows are not grouped: `" ++ key ++ "` appears again after its group was closed"
  | invalidRelation message => "invalid relation: " ++ message
  | outputIo path error => "failed to write " ++ path ++ ": " ++ error.message

def category? : Kind → Option Category
  | wrapped _ | adhoc _ => none
  | invalidArguments _ => some .invalidArguments
  | invalidConfig _ => some .invalidConfig
  | connectionFailure _ => some .connectionFailure
  | queryFailure _ => some .queryFailure
  | invalidCatalogOrder _ => some .invalidCatalogOrder
  | invalidRelation _ => some .invalidRelation
  | outputIo _ _ => some .outputIo

/-- The texts of the errors behind this one. A failure that wraps a foreign error shows itself
first, then that error and its causes. -/
def sources (kind : Kind) : List String :=
  match kind with
  | wrapped error => error.message :: error.sources
  | connectionFailure error | queryFailure error | outputIo _ error =>
    kind.message :: error.message :: error.sources
  | _ => []

def outline : Kind → Outline
  | wrapped error => .wrap "Anyhow" error.outline
  | adhoc message => labelled "Adhoc" "AdhocError" [("message", [quoted message])]
  | invalidArguments message => named "InvalidArguments" [("message", [quoted message])]
  | invalidConfig message => named "InvalidConfig" [("message", [quoted message])]
  | connectionFailure error => named "ConnectionFailure" [("inner", error.outline)]
  | queryFailure error => named "QueryFailure" [("inner", error.outline)]
  | invalidCatalogOrder key => named "InvalidCatalogOrder" [("key", [quoted key])]
  | invalidRelation message => named "InvalidRelation" [("message", [quoted message])]
  | outputIo path error => named "OutputIo" [("path", [quoted path]), ("inner", error.outline)]
where
  labelled (label name : String) (fields : List (String × Outline)) : Outline :=
    .wrap label (.record name fields)
  named (name : String) (fields : List (String × Outline)) : Outline := labelled name name fields

end Kind

end Fault

/-- A failure with the contexts added to it: the outermost kind, then what it is the context of. -/
structure Fault where
  kind : Fault.Kind
  causes : List Fault.Kind
  deriving DecidableEq

namespace Fault

def of (kind : Kind) : Fault := ⟨kind, []⟩

def chain (fault : Fault) : List Kind := fault.kind :: fault.causes

/-- Puts a kind in front of the chain. -/
def within (fault : Fault) (kind : Kind) : Fault := ⟨kind, fault.chain⟩

/-- Puts a plain text in front of the chain. -/
def context (fault : Fault) (message : String) : Fault := fault.within (.adhoc message)

@[simp] theorem chain_within (fault : Fault) (kind : Kind) :
    (fault.within kind).chain = kind :: fault.chain := rfl

def message (fault : Fault) : String := ": ".intercalate (fault.chain.map Kind.message)

/-- Whether some member of the chain is of this category. -/
def isA (fault : Fault) (category : Category) : Bool :=
  fault.chain.any (·.category? == some category)

def categories (fault : Fault) : List Category := Category.all.filter fault.isA

/-- The texts of the errors behind the outermost kind. -/
def sources (fault : Fault) : List String := fault.kind.sources

def outlineFrom (kind : Kind) : List Kind → Outline
  | [] => .record "Error" [("kind", kind.outline), ("cause", ["None"])]
  | cause :: rest =>
    .record "Error" [("kind", kind.outline), ("cause", .wrap "Some" (outlineFrom cause rest))]

/-- The layout of the whole chain in diagnostics. -/
def outline (fault : Fault) : Outline := outlineFrom fault.kind fault.causes

/-- The fault as seen by a caller that knows nothing of its kinds. -/
def toForeign (fault : Fault) : Foreign := ⟨fault.message, fault.sources, fault.outline⟩

def invalidArguments (message : String) : Fault := of (.invalidArguments message)
def invalidConfig (message : String) : Fault := of (.invalidConfig message)
def invalidRelation (message : String) : Fault := of (.invalidRelation message)
def queryFailure (message : String) : Fault := of (.queryFailure (.chain message []))
def connectionFailure (message : String) : Fault := of (.connectionFailure (.chain message []))

example : ((queryFailure "socket closed").context "reading schema public").message
    = "reading schema public: query failed: socket closed" := by decide +kernel

end Fault

end RelProto
