import RelProto.Catalog

/-! Database servers as their clients see them: places to connect to, and what is said to them. -/
namespace RelProto

/-- Where a server listens: at a socket in the file system, or at a port of a host. -/
inductive Endpoint where
  | socket (path : String)
  | port (host : String) (number : UInt16)
  deriving DecidableEq

structure Login where
  user : String
  database : Option String
  password : Option String
  deriving DecidableEq

/-- A catalog query with the text that is sent for it. The excluded tables are a parameter of the
query for tables. -/
structure Statement where
  text : String
  query : CatalogQuery
  excluded : List String
  deriving DecidableEq

/-- What a server says to a login. -/
inductive Welcome where
  | accepted
  | passwordDemanded
  deriving DecidableEq

/-- What is said to a server within a world of type `σ`. After a failure the world stays as it is.
-/
abbrev Exchange (Failure σ α : Type) : Type := ExceptT Failure (StateM σ) α

/-- A server within a world of type `σ`. Its failures and the rows it answers with are its own. It
says whether it is willing to encrypt, and answers what it is asked by a text. -/
structure Server (Failure Answer σ : Type) where
  reach : Endpoint → Exchange Failure σ Unit
  encrypts : Exchange Failure σ Bool
  greet : Login → Exchange Failure σ Welcome
  takePassword : String → Exchange Failure σ Unit
  ask : String → Exchange Failure σ String
  answer : Statement → Exchange Failure σ Answer

/-- The text of a ping. -/
def pingText : String := "SELECT 1"

end RelProto
