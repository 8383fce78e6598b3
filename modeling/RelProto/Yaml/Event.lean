import RelProto.Yaml.Token

/-! The events of a document: its collections are opened and closed, and every value is there, also
one that the text leaves out. -/
namespace RelProto.Yaml

/-- A value without inner structure. -/
structure Scalar where
  tag : Option Tag
  style : Style
  text : String
  deriving DecidableEq

def Scalar.missing : Scalar := ⟨none, .plain, ""⟩

inductive Event where
  | reference (name : String)
  | scalar (anchor : Option String) (scalar : Scalar)
  | sequenceStart (anchor : Option String)
  | sequenceEnd
  | mappingStart (anchor : Option String)
  | mappingEnd
  deriving DecidableEq

/-- What may come next in a document; of what is nested the innermost comes first. -/
inductive Expectation where
  | blockNode
  | blockNodeOrEntries
  | flowNode
  | blockEntry
  | bareEntry
  | blockKey
  | blockValue
  | flowEntry (first : Bool)
  | pairKey
  | pairValue
  | pairEnd
  | flowKey (first : Bool)
  | flowValue
  | flowNoValue
  deriving DecidableEq

namespace Expectation

/-- How many expectations can follow from one before a token is taken. -/
def weight : Expectation → Nat
  | flowEntry true => 3
  | flowKey true => 4
  | pairKey => 5
  | pairValue => 3
  | blockNodeOrEntries | pairEnd | blockValue | flowValue | flowNoValue => 2
  | _ => 1

end Expectation

/-- The handles of a document with what they stand for. -/
abbrev Handles := List (String × Tag)

/-- A tag without handle stands for itself. -/
def TagName.resolve (handles : Handles) (name : TagName) : Option Tag :=
  if name.handle.isEmpty then some name.suffix
  else (handles.lookup name.handle).map (· ++ name.suffix)

/-- What stands in front of a value. -/
structure Properties where
  anchor : Option String
  tag : Option TagName

namespace Properties

def isEmpty (properties : Properties) : Bool := properties.anchor.isNone && properties.tag.isNone

/-- Reads an anchor and a tag, in either order. -/
def read : List Token → Properties × List Token
  | .anchor name :: .tag tag :: rest => (⟨some name, some tag⟩, rest)
  | .tag tag :: .anchor name :: rest => (⟨some name, some tag⟩, rest)
  | .anchor name :: rest => (⟨some name, none⟩, rest)
  | .tag tag :: rest => (⟨none, some tag⟩, rest)
  | tokens => (⟨none, none⟩, tokens)

/-- The tag of the value, spelled out; fails at a handle that is not known. -/
def tagIn (handles : Handles) (properties : Properties) : Option (Option Tag) :=
  match properties.tag with
  | none => some none
  | some name => (name.resolve handles).map some

theorem length_read_le (tokens : List Token) : (read tokens).2.length ≤ tokens.length := by
  unfold read
  split <;> simp <;> omega

theorem isEmpty_or_length_read_lt (tokens : List Token) :
    (read tokens).1.isEmpty = true ∨ (read tokens).2.length < tokens.length := by
  unfold read
  split
  case h_5 => exact .inl rfl
  all_goals
    right
    simp only [List.length_cons]
    omega

end Properties

/-- What follows from an expectation: events, new expectations in front of the others, and the
tokens that are left. -/
structure Outcome where
  events : List Event
  expected : List Expectation
  rest : List Token

/-- How many expectations can follow from several before a token is taken. -/
def Expectation.total : List Expectation → Nat
  | [] => 0
  | first :: rest => first.weight + total rest

theorem Expectation.total_append (first rest : List Expectation) :
    total (first ++ rest) = total first + total rest := by
  induction first with
  | nil => simp [total]
  | cons _ _ ih => simp [total, ih, Nat.add_assoc]

/-- Tokens count for more than all that one of them can give rise to. -/
def Outcome.size (outcome : Outcome) : Nat :=
  8 * outcome.rest.length + Expectation.total outcome.expected

def missingValue : Event := .scalar none .missing

/-- Whether the next token is one of these. -/
def nextIs (tokens : List Token) (kinds : List Token) : Bool := tokens.head?.any kinds.contains

theorem length_pos_of_nextIs {tokens kinds : List Token} (h : nextIs tokens kinds = true) :
    0 < tokens.length := by
  cases tokens <;> simp_all [nextIs]

/-- A value, or nothing in front of one of these tokens. -/
def valueUnless (kinds : List Token) (node : Expectation) (next : Expectation)
    (rest : List Token) : Outcome :=
  if nextIs rest kinds then ⟨[missingValue], [next], rest⟩ else ⟨[], [node, next], rest⟩

namespace Expectation

/-- A value. Block collections have to be allowed; entries without a collection of their own too. -/
def node (handles : Handles) (block entries : Bool) (tokens : List Token) : Option Outcome :=
  match tokens with
  | .reference name :: rest => some ⟨[.reference name], [], rest⟩
  | tokens =>
    match Properties.read tokens with
    | (properties, rest) => do
      let tag ← properties.tagIn handles
      match rest with
      | .scalar text style :: rest =>
        some ⟨[.scalar properties.anchor ⟨tag, style, text⟩], [], rest⟩
      | .flowSequenceStart :: rest =>
        some ⟨[.sequenceStart properties.anchor], [.flowEntry true], rest⟩
      | .flowMappingStart :: rest => some ⟨[.mappingStart properties.anchor], [.flowKey true], rest⟩
      | rest =>
        if entries && nextIs rest [.blockEntry] then
          some ⟨[.sequenceStart properties.anchor], [.bareEntry], rest⟩
        else if block && nextIs rest [.blockSequenceStart] then
          some ⟨[.sequenceStart properties.anchor], [.blockEntry], rest.drop 1⟩
        else if block && nextIs rest [.blockMappingStart] then
          some ⟨[.mappingStart properties.anchor], [.blockKey], rest.drop 1⟩
        else if properties.isEmpty then none
        else some ⟨[.scalar properties.anchor ⟨tag, .plain, ""⟩], [], rest⟩

/-- An entry of a flow collection other than the first comes after a comma. -/
def passComma (first : Bool) (tokens : List Token) : Option (List Token) :=
  match first, tokens with
  | true, tokens => some tokens
  | false, .flowEntry :: rest => some rest
  | false, _ => none

def flowEntryStep (first : Bool) (tokens : List Token) : Option Outcome :=
  match tokens with
  | .flowSequenceEnd :: rest => some ⟨[.sequenceEnd], [], rest⟩
  | tokens =>
    match passComma first tokens with
    | none => none
    | some (.key :: rest) => some ⟨[.mappingStart none], [.pairKey, .flowEntry false], rest⟩
    | some (.flowSequenceEnd :: rest) => some ⟨[.sequenceEnd], [], rest⟩
    | some rest => some ⟨[], [.flowNode, .flowEntry false], rest⟩

def flowKeyStep (first : Bool) (tokens : List Token) : Option Outcome :=
  match tokens with
  | .flowMappingEnd :: rest => some ⟨[.mappingEnd], [], rest⟩
  | tokens =>
    match passComma first tokens with
    | none => none
    | some (.key :: rest) =>
      some (valueUnless [.value, .flowEntry, .flowMappingEnd] .flowNode .flowValue rest)
    | some (.flowMappingEnd :: rest) => some ⟨[.mappingEnd], [], rest⟩
    | some rest => some ⟨[], [.flowNode, .flowNoValue], rest⟩

/-- Meets one expectation. After an explicit but empty key in a flow sequence the next token is
passed over, whatever it is. -/
def step (handles : Handles) (expectation : Expectation) (tokens : List Token) : Option Outcome :=
  match expectation, tokens with
  | blockNode, tokens => node handles true false tokens
  | blockNodeOrEntries, tokens => node handles true true tokens
  | flowNode, tokens => node handles false false tokens
  | blockEntry, .blockEntry :: rest =>
    some (valueUnless [.blockEntry, .blockEnd] blockNode blockEntry rest)
  | blockEntry, .blockEnd :: rest => some ⟨[.sequenceEnd], [], rest⟩
  | blockEntry, _ => none
  | bareEntry, .blockEntry :: rest =>
    some (valueUnless [.blockEntry, .key, .value, .blockEnd] blockNode bareEntry rest)
  | bareEntry, rest => some ⟨[.sequenceEnd], [], rest⟩
  | blockKey, .key :: rest =>
    some (valueUnless [.key, .value, .blockEnd] blockNodeOrEntries blockValue rest)
  | blockKey, .blockEnd :: rest => some ⟨[.mappingEnd], [], rest⟩
  | blockKey, _ => none
  | blockValue, .value :: rest =>
    some (valueUnless [.key, .value, .blockEnd] blockNodeOrEntries blockKey rest)
  | blockValue, rest => some ⟨[missingValue], [blockKey], rest⟩
  | flowEntry first, tokens => flowEntryStep first tokens
  | pairKey, .value :: rest => some ⟨[missingValue], [pairValue], rest⟩
  | pairKey, .flowEntry :: rest => some ⟨[missingValue], [pairValue], rest⟩
  | pairKey, .flowSequenceEnd :: rest => some ⟨[missingValue], [pairValue], rest⟩
  | pairKey, rest => some ⟨[], [flowNode, pairValue], rest⟩
  | pairValue, .value :: rest =>
    some (valueUnless [.flowEntry, .flowSequenceEnd] flowNode pairEnd rest)
  | pairValue, rest => some ⟨[missingValue], [pairEnd], rest⟩
  | pairEnd, rest => some ⟨[.mappingEnd], [], rest⟩
  | flowKey first, tokens => flowKeyStep first tokens
  | flowValue, .value :: rest =>
    some (valueUnless [.flowEntry, .flowMappingEnd] flowNode (flowKey false) rest)
  | flowValue, rest => some ⟨[missingValue], [flowKey false], rest⟩
  | flowNoValue, rest => some ⟨[missingValue], [flowKey false], rest⟩

theorem size_valueUnless_le (kinds : List Token) (node next : Expectation) (rest : List Token) :
    (valueUnless kinds node next rest).size ≤ 8 * rest.length + node.weight + next.weight := by
  unfold valueUnless Outcome.size
  split
  · simp only [total]
    omega
  · simp only [total]
    omega

theorem size_node_lt {handles : Handles} {block entries : Bool} {tokens : List Token}
    {outcome : Outcome} (h : node handles block entries tokens = some outcome) :
    outcome.size < 8 * tokens.length + (if entries then 2 else 1) := by
  unfold node at h
  split at h
  · simp only [Option.some.injEq] at h
    subst h
    simp [Outcome.size, total]
    omega
  · have hle := Properties.length_read_le tokens
    have hlt := Properties.isEmpty_or_length_read_lt tokens
    rcases hr : Properties.read tokens with ⟨properties, rest⟩
    rw [hr] at hle hlt h
    simp only [Option.bind_eq_bind, Option.bind_eq_some_iff] at h hle hlt
    obtain ⟨tag, -, h⟩ := h
    split at h
    · cases h
      simp [Outcome.size, total] at hle ⊢
      omega
    · cases h
      simp [Outcome.size, total, weight] at hle ⊢
      omega
    · cases h
      simp [Outcome.size, total, weight] at hle ⊢
      omega
    · split at h
      · rename_i hn
        cases h
        simp at hn
        simp [Outcome.size, total, weight, hn.1]
        omega
      · split at h
        · rename_i hn
          cases h
          simp at hn
          have := length_pos_of_nextIs hn.2
          simp [Outcome.size, total, weight]
          omega
        · split at h
          · rename_i hn
            cases h
            simp at hn
            have := length_pos_of_nextIs hn.2
            simp [Outcome.size, total, weight]
            omega
          · split at h
            · simp at h
            · rename_i hp
              cases h
              simp [hp] at hlt
              simp [Outcome.size, total]
              omega

theorem length_passComma_le {first : Bool} {tokens rest : List Token}
    (h : passComma first tokens = some rest) : rest.length ≤ tokens.length ∧
      (first = false → rest.length < tokens.length) := by
  unfold passComma at h
  split at h <;> simp_all

theorem size_flowEntryStep_lt {first : Bool} {tokens : List Token} {outcome : Outcome}
    (h : flowEntryStep first tokens = some outcome) :
    outcome.size < 8 * tokens.length + (flowEntry first).weight := by
  unfold flowEntryStep at h
  split at h
  · cases h
    simp [Outcome.size, total]
    omega
  · split at h
    · simp at h
    all_goals
      rename_i hc
      have := length_passComma_le hc
      cases h
      cases first <;> simp [Outcome.size, total, weight] at this ⊢ <;> omega

theorem size_flowKeyStep_lt {first : Bool} {tokens : List Token} {outcome : Outcome}
    (h : flowKeyStep first tokens = some outcome) :
    outcome.size < 8 * tokens.length + (flowKey first).weight := by
  unfold flowKeyStep at h
  split at h
  · cases h
    simp [Outcome.size, total]
    omega
  · split at h
    · simp at h
    · rename_i rest hc
      have := length_passComma_le hc
      have := size_valueUnless_le [.value, .flowEntry, .flowMappingEnd] .flowNode .flowValue rest
      cases h
      cases first <;> simp [weight] at * <;> omega
    all_goals
      rename_i hc
      have := length_passComma_le hc
      cases h
      cases first <;> simp [Outcome.size, total, weight] at this ⊢ <;> omega

theorem size_step_lt {handles : Handles} {expectation : Expectation} {tokens : List Token}
    {outcome : Outcome} (h : step handles expectation tokens = some outcome) :
    outcome.size < 8 * tokens.length + expectation.weight := by
  unfold step at h
  split at h
  case h_1 | h_2 | h_3 => simpa [weight] using size_node_lt h
  case h_14 => exact size_flowEntryStep_lt h
  case h_22 => exact size_flowKeyStep_lt h
  case h_6 | h_11 => simp at h
  case h_4 | h_7 | h_9 | h_12 | h_19 | h_23 =>
    cases h
    refine Nat.lt_of_le_of_lt (size_valueUnless_le _ _ _ _) ?_
    simp [weight] <;> omega
  all_goals
    cases h
    simp [Outcome.size, total, weight] <;> omega

/-- Meets the expectations one after the other. -/
def events (handles : Handles) (expected : List Expectation) (tokens : List Token) :
    Option (List Event × List Token) :=
  match expected with
  | [] => some ([], tokens)
  | expectation :: others =>
    match _h : step handles expectation tokens with
    | none => none
    | some outcome =>
      match events handles (outcome.expected ++ others) outcome.rest with
      | none => none
      | some (more, rest) => some (outcome.events ++ more, rest)
  termination_by 8 * tokens.length + total expected
  decreasing_by
    have := size_step_lt _h
    simp [Outcome.size, total, total_append] at *
    omega

end Expectation

end RelProto.Yaml
