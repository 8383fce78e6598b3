import RelProto.Yaml.Event

/-! A stream of tokens holds one document at most: directives, a start mark, a value and end marks,
of which the value alone has to be there. -/
namespace RelProto.Yaml

/-- The handles that need no directive. -/
def standardHandles : Handles := [("!", .ofText "!"), ("!!", .ofText "tag:yaml.org,2002:")]

/-- Reads the directives. The version is declared once at most, and each handle too. -/
def directives (declared : Bool) (handles : Handles) : List Token → Option (Handles × List Token)
  | .versionDirective major minor :: rest =>
    if declared || major != 1 || (minor != 1 && minor != 2) then none
    else directives true handles rest
  | .tagDirective handle meaning :: rest =>
    if (handles.lookup handle).isSome then none
    else directives declared (handles ++ [(handle, meaning)]) rest
  | tokens => some (handles, tokens)

/-- Whether no value comes before the next token, which follows a start mark. -/
def endsDocument : Token → Bool
  | .versionDirective _ _ | .tagDirective _ _ | .documentStart | .documentEnd => true
  | _ => false

/-- Reads the start mark and the value. Only directives make the mark necessary. -/
def documentValue (handles : Handles) (marked : Bool) :
    List Token → Option (List Event × List Token)
  | .documentStart :: rest =>
    if rest.head?.all endsDocument then some ([missingValue], rest)
    else Expectation.events handles [.blockNode] rest
  | tokens => if marked then none else Expectation.events handles [.blockNode] tokens

/-- The events of the document, or none at all if there is no token. -/
def Event.ofTokens? (tokens : List Token) : Option (List Event) :=
  if tokens.isEmpty then some []
  else do
    let (handles, rest) ← directives false [] tokens
    let marked := rest.length < tokens.length
    let (events, rest) ← documentValue (handles ++ standardHandles) marked rest
    if rest.all (· == .documentEnd) then some events else none

end RelProto.Yaml
