import RecipeBook.Yaml.Node
import RecipeBook.Yaml.TokenStream

/-!
# Nodes made of tokens

`Draft` is a document that is being read: the tokens still to come, what handles stand for, and the
anchors so far. `node` reads a value. Once the tokens break off, everything that is read is `cut`, and
what was read before stays.
-/

namespace RecipeBook.Yaml

structure Draft where
  /-- `none` once the text has turned out not to be well-formed. -/
  tokens : Option TokenStream
  /-- What handles stand for. -/
  handles : List (String × String)
  /-- The number of each anchor name: how many names there were when it was last given. -/
  anchors : List (String × Nat)
  /-- The anchor numbers of the anchored nodes, the last first. -/
  started : List Nat
  /-- The anchored nodes that are complete, with their positions among the anchored nodes. -/
  complete : List (Nat × Node)

namespace Draft

def standardHandles : List (String × String) := [("!", "!"), ("!!", "tag:yaml.org,2002:")]

def start (text : List Char) : Draft := ⟨some (.start text), standardHandles, [], [], []⟩

abbrev Reading (α : Type) := StateM Draft α

def peek : Reading (Option Token) := fun d =>
  match d.tokens.bind TokenStream.peek with
  | some (token, tokens) => (some token, { d with tokens := some tokens })
  | none => (none, { d with tokens := none })

/-- Takes the token that was seen last. -/
def advance : Reading Unit := modify fun d => { d with tokens := d.tokens.map TokenStream.take }

def giveUp : Reading Node := do
  modify fun d => { d with tokens := none }
  return .cut

/-- Numbers an anchored node that starts here; gives its position among the anchored nodes. -/
def openAnchor (name : String) : Reading Nat := fun d =>
  let number := d.anchors.length
  (d.started.length,
    { d with
      anchors := (name, number) :: d.anchors.filter (·.1 ≠ name)
      started := number :: d.started })

def anchored (anchor : Option String) (read : Reading Node) : Reading Node := do
  match anchor with
  | none => read
  | some name =>
    let position ← openAnchor name
    let node ← read
    modify fun d => { d with complete := (position, node) :: d.complete }
    return node

/-- The nodes by anchor number, of several with one number the last first. -/
def anchoredNodes (d : Draft) : List (Nat × Node) :=
  (d.started.zip (List.range d.started.length).reverse).filterMap fun (number, position) =>
    (d.complete.lookup position).map fun node => (number, node)

def refer (name : String) : Reading Node := do
  advance
  match (← get).anchors.lookup name with
  | some number => return .reference number
  | none => giveUp

/-- What stands before a value: an anchor and a tag, in either order. -/
structure Properties where
  anchor : Option String
  tag : Option (String × String)

def anchorAhead : Reading (Option String) := do
  match ← peek with
  | some (.anchor name) => advance; return some name
  | _ => return none

def tagAhead : Reading (Option (String × String)) := do
  match ← peek with
  | some (.tag handle suffix) => advance; return some (handle, suffix)
  | _ => return none

def properties : Reading Properties := do
  match ← anchorAhead with
  | some name => return ⟨some name, ← tagAhead⟩
  | none =>
    match ← tagAhead with
    | some tag => return ⟨← anchorAhead, some tag⟩
    | none => return ⟨none, none⟩

/-- The tag in full, if its handle stands for something. -/
def fullTag (handles : List (String × String)) : String × String → Option String
  | (handle, suffix) =>
    if handle = "" then some suffix else (handles.lookup handle).map (· ++ suffix)

/-- The value is not written if a token of the class comes next. -/
def emptyIf (isNext : Token → Bool) (read : Reading Node) : Reading Node := do
  match ← peek with
  | none => return .cut
  | some token => if isNext token then return .empty else read

/-- What comes next inside brackets. But for the first entry, a comma must come before an entry. -/
def nextInFlow (first : Bool) (close : Token) : Reading (Option Token) := do
  match ← peek with
  | none => return none
  | some token =>
    if first ∨ token = close then return token
    else if token = .flowEntry then
      advance
      peek
    else
      let _ ← giveUp
      return none

def endsPair : Token → Bool
  | .key | .value | .blockEnd => true
  | _ => false

def endsItem : Token → Bool
  | .blockEntry | .key | .value | .blockEnd => true
  | _ => false

def endsFlowKey (close : Token) (token : Token) : Bool :=
  token = .value || token = .flowEntry || token = close

def endsFlowValue (close : Token) (token : Token) : Bool := token = .flowEntry || token = close

/-- The value behind a colon, if a colon comes next. -/
def valueAhead (isEnd : Token → Bool) (read : Reading Node) : Reading Node := do
  match ← peek with
  | none => return .cut
  | some .value =>
    advance
    emptyIf isEnd read
  | some _ => return .empty

/-- The single pair that an entry of a bracketed sequence may be. A key that is left out takes the
next mark with it. -/
def singlePair (read : Reading Node) : Reading (List (Node × Node)) := do
  let key ← match ← peek with
    | none => pure .cut
    | some token =>
      if endsFlowKey .flowSequenceEnd token then do
        advance
        pure .empty
      else read
  let value ← valueAhead (endsFlowValue .flowSequenceEnd) read
  match ← peek with
  | none => return [(key, value), (.cut, .cut)]
  | some _ => return [(key, value)]

mutual

/-- Reads a value. Outside brackets it may be a block, and as part of a mapping also a sequence that
is not indented. -/
def node (block inMapping : Bool) : Nat → Reading Node
  | 0 => giveUp
  | fuel + 1 => do
    match ← peek with
    | some (.reference name) => refer name
    | _ =>
      let p ← properties
      match ← peek with
      | none => return .cut
      | some token =>
        match p.tag.map (fullTag (← get).handles) with
        | some none => giveUp
        | tag => content block inMapping p.anchor tag.join token fuel

/-- Reads the value that starts with a token. -/
def content (block inMapping : Bool) (anchor tag : Option String) (token : Token) :
    Nat → Reading Node
  | 0 => giveUp
  | fuel + 1 =>
    match token, block, inMapping with
    | .blockEntry, _, true => anchored anchor (return .sequence tag (← plainItems fuel))
    | .scalar style text, _, _ => do
      advance
      anchored anchor (return .scalar tag style text)
    | .flowSequenceStart, _, _ => do
      advance
      anchored anchor (return .sequence tag (← flowItems true fuel))
    | .flowMappingStart, _, _ => do
      advance
      anchored anchor (return .mapping tag (← flowPairs true fuel))
    | .blockSequence, true, _ => do
      advance
      anchored anchor (return .sequence tag (← blockItems fuel))
    | .blockMapping, true, _ => do
      advance
      anchored anchor (return .mapping tag (← blockPairs fuel))
    | _, _, _ =>
      if anchor.isSome || tag.isSome then anchored anchor (return .scalar tag .plain "")
      else giveUp

/-- The entries of an indented sequence. -/
def blockItems : Nat → Reading (List Node)
  | 0 => return [← giveUp]
  | fuel + 1 => do
    match ← peek with
    | some .blockEntry =>
      advance
      let item ← emptyIf (fun t => t = .blockEntry || t = .blockEnd) (node true false fuel)
      return item :: (← blockItems fuel)
    | some .blockEnd =>
      advance
      return []
    | _ => return [← giveUp]

/-- The entries of a sequence that is not indented. -/
def plainItems : Nat → Reading (List Node)
  | 0 => return [← giveUp]
  | fuel + 1 => do
    match ← peek with
    | some .blockEntry =>
      advance
      let item ← emptyIf endsItem (node true false fuel)
      return item :: (← plainItems fuel)
    | some _ => return []
    | none => return [.cut]

/-- The pairs of an indented mapping. -/
def blockPairs : Nat → Reading (List (Node × Node))
  | 0 => return [(← giveUp, .cut)]
  | fuel + 1 => do
    match ← peek with
    | some .key =>
      advance
      let key ← emptyIf endsPair (node true true fuel)
      let value ← valueAhead endsPair (node true true fuel)
      return (key, value) :: (← blockPairs fuel)
    | some .blockEnd =>
      advance
      return []
    | _ => return [(← giveUp, .cut)]

/-- The entries of a sequence in brackets. -/
def flowItems (first : Bool) : Nat → Reading (List Node)
  | 0 => return [← giveUp]
  | fuel + 1 => do
    match ← nextInFlow first .flowSequenceEnd with
    | none => return [.cut]
    | some .flowSequenceEnd =>
      advance
      return []
    | some .key =>
      advance
      let item := Node.mapping none (← singlePair (node false false fuel))
      return item :: (← flowItems false fuel)
    | some _ =>
      let item ← node false false fuel
      return item :: (← flowItems false fuel)

/-- The pairs of a mapping in braces. -/
def flowPairs (first : Bool) : Nat → Reading (List (Node × Node))
  | 0 => return [(← giveUp, .cut)]
  | fuel + 1 => do
    match ← nextInFlow first .flowMappingEnd with
    | none => return [(.cut, .cut)]
    | some .flowMappingEnd =>
      advance
      return []
    | some .key =>
      advance
      let key ← emptyIf (endsFlowKey .flowMappingEnd) (node false false fuel)
      let value ← valueAhead (endsFlowValue .flowMappingEnd) (node false false fuel)
      return (key, value) :: (← flowPairs false fuel)
    | some _ =>
      let key ← node false false fuel
      match ← peek with
      | none => return [(key, .cut)]
      | some _ => return (key, .empty) :: (← flowPairs false fuel)

end

end Draft
end RecipeBook.Yaml
