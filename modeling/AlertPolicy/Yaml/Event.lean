import AlertPolicy.Yaml.Token

/-!
Events: the tokens of a stream brought into the shape of nested nodes, document by document. Each
node is one event or all events from its start to its matching end. Marks of blocks and brackets
are gone, missing nodes are empty plain scalars, and tags are written in full.
-/

namespace AlertPolicy.Yaml

inductive Event where
  | alias (name : String)
  | scalar (anchor tag : Option String) (plain : Bool) (text : String)
  | sequenceStart (anchor : Option String)
  | sequenceEnd
  | mappingStart (anchor : Option String)
  | mappingEnd
  deriving DecidableEq, Repr

/-- The expansions of the handles of tags. -/
abbrev Handles := List (String × String)

def defaultHandles : Handles := [("!", "!"), ("!!", "tag:yaml.org,2002:")]

/-- The events so far and the tokens that are left. -/
abbrev EventStep := Option (Array Event × List Token)

def Event.missing : Event := .scalar none none true ""

/-- The anchor, the tag and whether there is either, before a node. -/
structure Properties where
  anchor : Option String
  tag : Option (String × String)
  deriving Repr

def readProperties : List Token → Properties × List Token
  | .anchor a :: .tag h s :: ts => (⟨some a, some (h, s)⟩, ts)
  | .anchor a :: ts => (⟨some a, none⟩, ts)
  | .tag h s :: .anchor a :: ts => (⟨some a, some (h, s)⟩, ts)
  | .tag h s :: ts => (⟨none, some (h, s)⟩, ts)
  | ts => (⟨none, none⟩, ts)

/-- The tag with its handle expanded; a handle without expansion is refused. -/
def resolveTag? (handles : Handles) : Option (String × String) → Option (Option String)
  | none => some none
  | some (handle, suffix) =>
      if handle.isEmpty then some (some suffix)
      else (handles.lookup handle).map fun expansion => some (expansion ++ suffix)

/-- Where a block collection leaves out a node. -/
def endsBlockItem : List Token → Bool
  | .blockEntry :: _ | .blockEnd :: _ => true
  | _ => false

def endsIndentlessItem : List Token → Bool
  | .blockEntry :: _ | .key :: _ | .value :: _ | .blockEnd :: _ => true
  | _ => false

def endsBlockPart : List Token → Bool
  | .key :: _ | .value :: _ | .blockEnd :: _ => true
  | _ => false

/-- Where a collection in brackets leaves out a node, `close` being its closing bracket. -/
def endsFlowPart (close : Token) : List Token → Bool
  | .flowEntry :: _ => true
  | t :: _ => t == close
  | [] => false

mutual

/-- The events of one node. In `block` context it may be a block collection; the items of a list
that is the value of a key may stand at the indentation of the key if `indentless`. -/
def nodeEvents (handles : Handles) : Nat → Bool → Bool → Array Event → List Token → EventStep
  | 0, _, _, _, _ => none
  | fuel + 1, block, indentless, out, ts =>
      match ts with
      | .alias name :: ts => some (out.push (.alias name), ts)
      | _ =>
          let (props, ts) := readProperties ts
          match resolveTag? handles props.tag with
          | none => none
          | some tag =>
              match ts with
              | .scalar text plain :: ts =>
                  some (out.push (.scalar props.anchor tag plain text), ts)
              | .flowSequenceStart :: ts =>
                  flowItems handles fuel true (out.push (.sequenceStart props.anchor)) ts
              | .flowMappingStart :: ts =>
                  flowPairs handles fuel true (out.push (.mappingStart props.anchor)) ts
              | _ =>
                  match block, indentless, ts with
                  | _, true, .blockEntry :: _ =>
                      indentlessItems handles fuel (out.push (.sequenceStart props.anchor)) ts
                  | true, _, .blockSequenceStart :: ts =>
                      blockItems handles fuel (out.push (.sequenceStart props.anchor)) ts
                  | true, _, .blockMappingStart :: ts =>
                      blockPairs handles fuel (out.push (.mappingStart props.anchor)) ts
                  | _, _, _ =>
                      if props.anchor.isSome || tag.isSome then
                        some (out.push (.scalar props.anchor tag true ""), ts)
                      else none

/-- The rest of a block sequence. -/
def blockItems (handles : Handles) : Nat → Array Event → List Token → EventStep
  | 0, _, _ => none
  | fuel + 1, out, ts =>
      match ts with
      | .blockEntry :: ts =>
          if endsBlockItem ts then blockItems handles fuel (out.push .missing) ts
          else
            match nodeEvents handles fuel true false out ts with
            | none => none
            | some (out, ts) => blockItems handles fuel out ts
      | .blockEnd :: ts => some (out.push .sequenceEnd, ts)
      | _ => none

/-- The rest of a sequence that stands at the indentation of its key. -/
def indentlessItems (handles : Handles) : Nat → Array Event → List Token → EventStep
  | 0, _, _ => none
  | fuel + 1, out, ts =>
      match ts with
      | .blockEntry :: ts =>
          if endsIndentlessItem ts then indentlessItems handles fuel (out.push .missing) ts
          else
            match nodeEvents handles fuel true false out ts with
            | none => none
            | some (out, ts) => indentlessItems handles fuel out ts
      | _ => some (out.push .sequenceEnd, ts)

/-- The rest of a block mapping. -/
def blockPairs (handles : Handles) : Nat → Array Event → List Token → EventStep
  | 0, _, _ => none
  | fuel + 1, out, ts =>
      match ts with
      | .key :: ts =>
          if endsBlockPart ts then blockValue handles fuel (out.push .missing) ts
          else
            match nodeEvents handles fuel true true out ts with
            | none => none
            | some (out, ts) => blockValue handles fuel out ts
      | .blockEnd :: ts => some (out.push .mappingEnd, ts)
      | _ => none

/-- A value of a block mapping and the pairs after it. -/
def blockValue (handles : Handles) : Nat → Array Event → List Token → EventStep
  | 0, _, _ => none
  | fuel + 1, out, ts =>
      match ts with
      | .value :: ts =>
          if endsBlockPart ts then blockPairs handles fuel (out.push .missing) ts
          else
            match nodeEvents handles fuel true true out ts with
            | none => none
            | some (out, ts) => blockPairs handles fuel out ts
      | _ => blockPairs handles fuel (out.push .missing) ts

/-- The rest of a sequence in brackets. An item that begins with a key is a mapping of one pair. -/
def flowItems (handles : Handles) : Nat → Bool → Array Event → List Token → EventStep
  | 0, _, _, _ => none
  | fuel + 1, first, out, ts =>
      match ts with
      | .flowSequenceEnd :: ts => some (out.push .sequenceEnd, ts)
      | _ =>
          let entry := match first, ts with
            | true, ts => some ts
            | false, .flowEntry :: ts => some ts
            | false, _ => none
          match entry with
          | none => none
          | some (.flowSequenceEnd :: ts) => some (out.push .sequenceEnd, ts)
          | some (.key :: ts) =>
              match singlePair handles fuel (out.push (.mappingStart none)) ts with
              | none => none
              | some (out, ts) => flowItems handles fuel false out ts
          | some ts =>
              match nodeEvents handles fuel false false out ts with
              | none => none
              | some (out, ts) => flowItems handles fuel false out ts

/-- The pair of a mapping that is an item of a sequence in brackets. If its key is missing, the
token after the mark of the key is passed over. -/
def singlePair (handles : Handles) : Nat → Array Event → List Token → EventStep
  | 0, _, _ => none
  | fuel + 1, out, ts =>
      let afterKey := match ts with
        | .value :: rest | .flowEntry :: rest | .flowSequenceEnd :: rest =>
            some (out.push .missing, rest)
        | _ => nodeEvents handles fuel false false out ts
      match afterKey with
      | none => none
      | some (out, .value :: ts) =>
          if endsFlowPart .flowSequenceEnd ts then some (out.push .missing |>.push .mappingEnd, ts)
          else
            match nodeEvents handles fuel false false out ts with
            | none => none
            | some (out, ts) => some (out.push .mappingEnd, ts)
      | some (out, ts) => some (out.push .missing |>.push .mappingEnd, ts)

/-- The rest of a mapping in braces. -/
def flowPairs (handles : Handles) : Nat → Bool → Array Event → List Token → EventStep
  | 0, _, _, _ => none
  | fuel + 1, first, out, ts =>
      match ts with
      | .flowMappingEnd :: ts => some (out.push .mappingEnd, ts)
      | _ =>
          let entry := match first, ts with
            | true, ts => some ts
            | false, .flowEntry :: ts => some ts
            | false, _ => none
          match entry with
          | none => none
          | some (.flowMappingEnd :: ts) => some (out.push .mappingEnd, ts)
          | some (.key :: .value :: ts) =>
              flowValue handles fuel (out.push .missing) (.value :: ts)
          | some (.key :: ts) =>
              if endsFlowPart .flowMappingEnd ts then flowValue handles fuel (out.push .missing) ts
              else
                match nodeEvents handles fuel false false out ts with
                | none => none
                | some (out, ts) => flowValue handles fuel out ts
          | some ts =>
              match nodeEvents handles fuel false false out ts with
              | none => none
              | some (out, ts) => flowPairs handles fuel false (out.push .missing) ts

/-- A value of a mapping in braces and the pairs after it. -/
def flowValue (handles : Handles) : Nat → Array Event → List Token → EventStep
  | 0, _, _ => none
  | fuel + 1, out, ts =>
      match ts with
      | .value :: ts =>
          if endsFlowPart .flowMappingEnd ts then
            flowPairs handles fuel false (out.push .missing) ts
          else
            match nodeEvents handles fuel false false out ts with
            | none => none
            | some (out, ts) => flowPairs handles fuel false out ts
      | _ => flowPairs handles fuel false (out.push .missing) ts

end

/-- The directives before a document: at most one version, which must be 1.1 or 1.2, and handles,
each at most once. -/
def readDirectives? (seenVersion : Bool) (handles : Handles) :
    List Token → Option (Handles × List Token)
  | .version major minor :: ts =>
      if seenVersion || major != 1 || (minor != 1 && minor != 2) then none
      else readDirectives? true handles ts
  | .handle name expansion :: ts =>
      if (handles.lookup name).isSome then none
      else readDirectives? seenVersion ((name, expansion) :: handles) ts
  | ts => some (handles, ts)

def isDocumentBoundary : List Token → Bool
  | [] => true
  | .version .. :: _ | .handle .. :: _ | .documentStart :: _ | .documentEnd :: _ => true
  | _ => false

/-- The events of the documents of a stream. Only the first document may go without its mark, and
only if no directive stands before it. -/
def documentEvents? : Nat → Bool → List Token → Option (List (Array Event))
  | 0, _, _ => none
  | fuel + 1, first, ts => do
      let ts := if first then ts else ts.dropWhile (· == .documentEnd)
      if ts.isEmpty then return []
      else
        let begins := match ts with
          | .version .. :: _ | .handle .. :: _ | .documentStart :: _ => true
          | _ => false
        let (handles, content, explicit) ←
          if first && !begins then some ([], ts, false)
          else
            match ← readDirectives? false [] ts with
            | (handles, .documentStart :: ts) => some (handles, ts, true)
            | _ => none
        let (events, rest) ←
          if explicit && isDocumentBoundary content then some (#[Event.missing], content)
          else
            nodeEvents (handles ++ defaultHandles) (4 * content.length + 8) true false #[] content
        let rest := match rest with
          | .documentEnd :: rest => rest
          | rest => rest
        return events :: (← documentEvents? fuel false rest)

end AlertPolicy.Yaml
