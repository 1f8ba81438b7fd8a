import QueryRows.Yaml.Token
/-!
# Node — a YAML document

A document is a scalar, a sequence or a mapping.  Where a key, a value or an element is left out, an empty plain
scalar stands.  A text holds one document at most.  There are no nodes but those that are written out: a text with
anchors and aliases, with tags or with directives is refused (`parse?`).
-/
namespace QueryRows
namespace Yaml

/-- A node of a document. -/
inductive Node where
  | scalar (plain : Bool) (text : String)
  | sequence (elements : List Node)
  | mapping (members : List (Node × Node))
deriving Inhabited

def Node.empty : Node := .scalar true ""

/-- What reading a node comes to: the node, and the tokens behind it. -/
abbrev NodeRead := Option (Node × List Token)

/-- A place in a block where a node may be missing, told by the token that follows. -/
def endsBlockNode : List Token → Bool
  | .key :: _ | .value :: _ | .blockEnd :: _ => true
  | _ => false

/-- The tokens that may follow a missing element of a block sequence. -/
def endsBlockElement : List Token → Bool
  | .dash :: _ | .blockEnd :: _ => true
  | _ => false

/-- The tokens that may follow a missing element of a sequence that is indented no deeper than its key. -/
def endsFlatElement : List Token → Bool
  | .dash :: _ | .key :: _ | .value :: _ | .blockEnd :: _ => true
  | _ => false

/-- The tokens that may follow a missing key or value in braces. -/
def endsFlowMember : List Token → Bool
  | .value :: _ | .comma :: _ | .flowMappingEnd :: _ => true
  | _ => false

/-- The tokens that may follow a missing value in braces. -/
def endsFlowValue : List Token → Bool
  | .comma :: _ | .flowMappingEnd :: _ => true
  | _ => false

/-- The tokens that may follow a missing value of a pair in brackets. -/
def endsPairValue : List Token → Bool
  | .comma :: _ | .flowSequenceEnd :: _ => true
  | _ => false

mutual

/-- Reads a node.  `block` admits block collections, and `flat` a sequence that is indented no deeper than the key
it belongs to.  `fuel` bounds the number of steps. -/
def readNode? (block flat : Bool) : Nat → List Token → Option (Node × List Token)
  | 0, _ => none
  | fuel + 1, ts =>
    match ts with
    | .scalar plain text :: rest => some (.scalar plain text, rest)
    | .flowSequence :: rest => (readFlowElements? true fuel rest).map fun p => (.sequence p.1, p.2)
    | .flowMapping :: rest => (readFlowMembers? true fuel rest).map fun p => (.mapping p.1, p.2)
    | .blockSequence :: rest =>
      if block then (readBlockElements? fuel rest).map fun p => (.sequence p.1, p.2) else none
    | .blockMapping :: rest =>
      if block then (readBlockMembers? fuel rest).map fun p => (.mapping p.1, p.2) else none
    | .dash :: _ => if flat then (readFlatElements? fuel ts).map fun p => (.sequence p.1, p.2) else none
    | _ => none

def readBlockElements? : Nat → List Token → Option (List Node × List Token)
  | 0, _ => none
  | fuel + 1, ts =>
    match ts with
    | .blockEnd :: rest => some ([], rest)
    | .dash :: rest =>
      let element : NodeRead := if endsBlockElement rest then some (.empty, rest) else readNode? true false fuel rest
      match element with
      | none => none
      | some (element, rest) => (readBlockElements? fuel rest).map fun p => (element :: p.1, p.2)
    | _ => none

/-- Reads the elements of a sequence that is indented no deeper than its key. -/
def readFlatElements? : Nat → List Token → Option (List Node × List Token)
  | 0, _ => none
  | fuel + 1, ts =>
    match ts with
    | .dash :: rest =>
      let element : NodeRead := if endsFlatElement rest then some (.empty, rest) else readNode? true false fuel rest
      match element with
      | none => none
      | some (element, rest) => (readFlatElements? fuel rest).map fun p => (element :: p.1, p.2)
    | ts => some ([], ts)

def readBlockMembers? : Nat → List Token → Option (List (Node × Node) × List Token)
  | 0, _ => none
  | fuel + 1, ts =>
    match ts with
    | .blockEnd :: rest => some ([], rest)
    | .key :: rest =>
      let key : NodeRead := if endsBlockNode rest then some (.empty, rest) else readNode? true true fuel rest
      match key with
      | none => none
      | some (key, rest) =>
        let value : NodeRead := match rest with
          | .value :: rest => if endsBlockNode rest then some (.empty, rest) else readNode? true true fuel rest
          | rest => some (.empty, rest)
        match value with
        | none => none
        | some (value, rest) => (readBlockMembers? fuel rest).map fun p => ((key, value) :: p.1, p.2)
    | _ => none

/-- Reads the elements in brackets; between two of them a comma stands.  A pair in brackets is a mapping of one
member. -/
def readFlowElements? (first : Bool) : Nat → List Token → Option (List Node × List Token)
  | 0, _ => none
  | fuel + 1, ts =>
    match ts with
    | .flowSequenceEnd :: rest => some ([], rest)
    | ts =>
      let here := if first then some ts else match ts with
        | .comma :: rest => some rest
        | _ => none
      match here with
      | none => none
      | some (.flowSequenceEnd :: rest) => some ([], rest)
      | some (.key :: rest) =>
        match readPair? fuel rest with
        | none => none
        | some (pair, rest) => (readFlowElements? false fuel rest).map fun p => (.mapping [pair] :: p.1, p.2)
      | some rest =>
        match readNode? false false fuel rest with
        | none => none
        | some (element, rest) => (readFlowElements? false fuel rest).map fun p => (element :: p.1, p.2)

/-- Reads a pair in brackets behind the mark of its key. -/
def readPair? : Nat → List Token → Option ((Node × Node) × List Token)
  | 0, _ => none
  | fuel + 1, ts =>
    let key : NodeRead := match ts with
      | .value :: rest | .comma :: rest | .flowSequenceEnd :: rest => some (.empty, rest)
      | ts => readNode? false false fuel ts
    match key with
    | none => none
    | some (key, rest) =>
      match rest with
      | .value :: rest =>
        if endsPairValue rest then some ((key, .empty), rest)
        else (readNode? false false fuel rest).map fun p => ((key, p.1), p.2)
      | rest => some ((key, .empty), rest)

/-- Reads the members in braces; between two of them a comma stands. -/
def readFlowMembers? (first : Bool) : Nat → List Token → Option (List (Node × Node) × List Token)
  | 0, _ => none
  | fuel + 1, ts =>
    match ts with
    | .flowMappingEnd :: rest => some ([], rest)
    | ts =>
      let here := if first then some ts else match ts with
        | .comma :: rest => some rest
        | _ => none
      match here with
      | none => none
      | some (.flowMappingEnd :: rest) => some ([], rest)
      | some (.key :: rest) =>
        let key : NodeRead := if endsFlowMember rest then some (.empty, rest) else readNode? false false fuel rest
        match key with
        | none => none
        | some (key, rest) =>
          let value : NodeRead := match rest with
            | .value :: rest => if endsFlowValue rest then some (.empty, rest) else readNode? false false fuel rest
            | rest => some (.empty, rest)
          match value with
          | none => none
          | some (value, rest) => (readFlowMembers? false fuel rest).map fun p => ((key, value) :: p.1, p.2)
      | some rest =>
        match readNode? false false fuel rest with
        | none => none
        | some (key, rest) => (readFlowMembers? false fuel rest).map fun p => ((key, .empty) :: p.1, p.2)

end

def skipDocumentEnds : List Token → List Token
  | .documentEnd :: rest => skipDocumentEnds rest
  | ts => ts

/-- Reads the one document of a text; without any content there is none. -/
def readDocument? (ts : List Token) : Option (Option Node) :=
  let fuel := 3 * ts.length + 3
  let whole : NodeRead → Option (Option Node) := fun
    | some (node, rest) => if (skipDocumentEnds rest).isEmpty then some (some node) else none
    | none => none
  match ts with
  | [] => some none
  | .documentStart :: rest =>
    match rest with
    | [] | .documentEnd :: _ => whole (some (.empty, rest))
    | rest => whole (readNode? true false fuel rest)
  | ts => whole (readNode? true false fuel ts)

mutual

def Node.depth : Node → Nat
  | .scalar _ _ => 0
  | .sequence elements => depthOfElements elements + 1
  | .mapping members => depthOfMembers members + 1

def depthOfElements : List Node → Nat
  | [] => 0
  | n :: ns => max n.depth (depthOfElements ns)

def depthOfMembers : List (Node × Node) → Nat
  | [] => 0
  | (k, v) :: ms => max (max k.depth v.depth) (depthOfMembers ms)

end

/-- How deep sequences and mappings may nest. -/
def maxDepth : Nat := 128

/-- **Reads a text**: its document, or none when the text is empty but for comments. -/
def parse? (text : String) : Option (Option Node) :=
  match (tokens? text).bind readDocument? with
  | some (some node) => if node.depth ≤ maxDepth then some (some node) else none
  | r => r

end Yaml
end QueryRows
