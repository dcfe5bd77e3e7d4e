import Stencil.Markup.Element

/-!
# The structure of a document

A document is read line by line. The containers that are open, innermost first, form the spine; a
line keeps those it continues, closes the others and may open new ones.

* `Kind`, `OpenContainer` and `Reader` are the state between two lines.
* `Reader.startLine` settles the containers of a line, `Reader.readLeaf` reads the text, code or
  heading in it, with the lines that belong to it.
* `Document.ofSource` reads a whole document: its elements, and the labels of links it defines.
* `Document.reader` is the `MarkupReader` that these make.
-/

namespace Stencil.Markup

/-- A kind of container. -/
inductive Kind where
  | quote
  | list (mark : Char)
  /-- An item whose lines are indented by some columns. -/
  | item (indent : Nat)
  deriving Repr, DecidableEq

/-- A container that is not closed yet. -/
structure OpenContainer where
  kind : Kind
  start : Nat
  /-- Its elements, the last first. -/
  done : List Element := []

/-- The state between two lines. -/
structure Reader where
  /-- The size of the document in bytes. -/
  size : Nat
  /-- The open containers, innermost first. -/
  spine : List OpenContainer := []
  /-- The elements outside of containers, the last first. -/
  done : List Element := []
  /-- Where the first line of an item without content ended. -/
  freshItem : Option Nat := none
  /-- Whether the line before was blank. -/
  afterBlank : Bool := false
  /-- The keys of the labels that are defined. -/
  labels : List (List Char) := []

namespace Kind

/-- The position after what continues a container, if a line does. An item goes on over blank
lines. -/
def continue? (kind : Kind) (h : Head) : Option Head :=
  match kind with
  | .quote =>
    let (_, h) := h.skip 3
    match h.rest with
    | '>' :: _ => some ((h.past 1).skip 1).2
    | _ => none
  | .list _ => some h
  | .item indent =>
    let (missing, after) := h.skip indent
    if missing = 0 || after.atLineEnd then some after else none

/-- How many of the containers, outermost first, a line continues, and the position after that. -/
def continueAll : List Kind → Head → Nat × Head
  | [], h => (0, h)
  | kind :: kinds, h =>
    match kind.continue? h with
    | some h =>
      let (n, h) := continueAll kinds h
      (n + 1, h)
    | none => (0, h)

end Kind

/-- The position after the containers of a line, if it continues all of them. -/
def inside? (kinds : List Kind) (line : List Char) : Option Head :=
  let (n, h) := Kind.continueAll kinds ⟨line, 0, 0⟩
  if n = kinds.length then some h else none

/-! ## Lines that belong together -/

/-- Whether a line, after its containers, cannot go on a paragraph. -/
def interrupts (sameContainers : Bool) (cs : List Char) : Bool :=
  (lineBreak? cs).isSome || isRule cs || (headingLevel? cs).isSome || (fence? cs).isSome ||
    cs.head? = some '>' || interruptsAsItem sameContainers cs ||
    match cs with
    | '<' :: rest => (blockEnd? rest).isSome || startsBlockTag rest
    | _ => false

/-- Where a paragraph goes on in a line, if it does. -/
def goOn? (kinds : List Kind) (line : List Char) : Option (List Char) :=
  let (n, h) := Kind.continueAll kinds ⟨line, 0, 0⟩
  let same := n = kinds.length
  match h.columns? 4 with
  | some _ => some h.skipAll.rest
  | none =>
    let cs := (h.skip 4).2.rest
    if interrupts same cs || (same && (underlineLevel? cs).isSome) then none else some cs

/-- The lines of a paragraph and where it ends, with its level if it is an underlined heading. -/
def paragraphLines (kinds : List Kind) : Nat → List Char →
    List (List Char) × Option Nat × List Char
  | 0, cs => ([], none, cs)
  | limit + 1, cs =>
    let (line, next) := cutLine cs
    let (n, h) := Kind.continueAll kinds ⟨next, 0, 0⟩
    let same := n = kinds.length
    let found : Option (Option (Nat × List Char)) :=
      match h.columns? 4 with
      | some _ => none
      | none =>
        let cs := (h.skip 4).2.rest
        match if same then underlineLevel? cs else none with
        | some (level, rest) => some (some (level, rest))
        | none => if interrupts same cs then some none else none
    match found with
    | some (some (level, rest)) => ([line], some level, rest)
    | some none => ([line], none, next)
    | none =>
      let h := h.skipAll
      if h.atLineEnd then ([line], none, next)
      else
        let (lines, level, rest) := paragraphLines kinds limit h.rest
        (line :: lines, level, rest)

/-- The rest after fenced code whose first line has been passed. -/
def fencedRest (kinds : List Kind) (indent : Nat) (mark : Char) (size : Nat) :
    Nat → List Char → List Char
  | 0, cs => cs
  | limit + 1, cs =>
    match inside? kinds cs with
    | none => cs
    | some h =>
      let (_, h) := h.skip indent
      let closing := match h.columns? (4 - indent) with
        | some _ => none
        | none => closingFence? mark size (h.skip (4 - indent)).2.rest
      match closing with
      | some rest => (blankLine? rest).getD rest
      | none =>
        if h.rest.isEmpty then [] else fencedRest kinds indent mark size limit (nextLine h.rest)

/-- The rest after indented code, and whether its last line was blank. `cs` is inside of a line of
it. -/
def indentedRest (kinds : List Kind) : Nat → Bool → List Char → List Char × Bool
  | 0, blank, cs => (cs, blank)
  | limit + 1, blank, cs =>
    let next := nextLine cs
    if next.isEmpty then ([], blank)
    else match inside? kinds next with
      | none => (next, blank)
      | some h =>
        let (missing, after) := h.skip 4
        if missing = 0 || after.atLineEnd then
          indentedRest kinds limit (startsBlank after.rest) after.rest
        else (next, blank)

/-- The rest after HTML that goes on to a line with `stop` in it. -/
def rawHtmlRest (kinds : List Kind) (stop : List Char) : Nat → List Char → List Char
  | 0, cs => cs
  | limit + 1, cs =>
    let next := nextLine cs
    match inside? kinds next with
    | none => next
    | some h =>
      if Text.hasPart stop (thisLine cs) then next
      else if h.rest.isEmpty then next
      else rawHtmlRest kinds stop limit h.rest

/-- The rest after HTML that goes on to a blank line. -/
def htmlRest (kinds : List Kind) : Nat → List Char → List Char
  | 0, cs => cs
  | limit + 1, cs =>
    let next := nextLine cs
    match inside? kinds next with
    | none => next
    | some h =>
      if h.atLineEnd || startsBlank h.rest then next else htmlRest kinds limit h.rest

/-! ## Definitions of links -/

/-- Blanks with at most one line break among them: whether there was one, and the rest. -/
def definitionBlanks? (kinds : List Kind) (cs : List Char) : Option (Bool × List Char) :=
  let rest := skipSpaces cs
  match lineBreak? rest with
  | none => some (false, rest)
  | some next =>
    match goOn? kinds next with
    | some rest =>
      let rest := skipSpaces rest
      if (lineBreak? rest).isSome then none else some (true, rest)
    | none => none

/-- The rest after the title of a definition, which ends its line. -/
def definitionTitle? (kinds : List Kind) (cs : List Char) : Option (List Char) :=
  (linkTitle? (goOn? kinds) cs).bind blankLine?

/-- A definition of a link: its label, and the rest after it. -/
def definition? (kinds : List Kind) (cs : List Char) : Option (List Char × List Char) :=
  match cs with
  | '[' :: cs =>
    match linkLabel? (goOn? kinds) cs with
    | some (label, ':' :: cs) =>
      match definitionBlanks? kinds cs with
      | none => none
      | some (_, target) =>
        match linkTarget? target with
        | none => none
        | some rest =>
          if rest.length = target.length then none
          else
            let bare := (blankLine? rest).map fun next => (label, next)
            match definitionBlanks? kinds rest with
            | none => bare
            | some (_, title) =>
              if title.length = rest.length then none
              else match definitionTitle? kinds title with
                | some next => some (label, next)
                | none => bare
    | _ => none
  | _ => none

/-! ## Containers -/

namespace Reader

/-- The byte offset of a rest of the document. -/
def offset (r : Reader) (rest : List Char) : Nat := r.size - Text.byteLength rest

/-- The kinds of the open containers, outermost first. -/
def kinds (r : Reader) : List Kind := (r.spine.map (·.kind)).reverse

/-- Adds an element to the innermost container. -/
def add (r : Reader) (e : Element) : Reader :=
  match r.spine with
  | c :: outer => { r with spine := { c with done := e :: c.done } :: outer }
  | [] => { r with done := e :: r.done }

/-- The element of a container that is closed at byte `stop`. -/
def elementOf (c : OpenContainer) (stop : Nat) : Element :=
  match c.kind with
  | .quote => .quote c.done.reverse
  | .list _ => .list c.start c.done.reverse
  | .item _ => .item ⟨c.start, stop⟩ c.done.reverse

/-- Closes the innermost container at byte `stop`. -/
def close (r : Reader) (stop : Nat) : Reader :=
  match r.spine with
  | c :: outer => { r with spine := outer }.add (elementOf c stop)
  | [] => r

/-- Closes `n` containers at byte `stop`. -/
def closeMany (stop : Nat) : Nat → Reader → Reader
  | 0, r => r
  | n + 1, r => closeMany stop n (r.close stop)

/-- Opens a container. -/
def enter (r : Reader) (kind : Kind) (start : Nat) : Reader :=
  { r with spine := ⟨kind, start, []⟩ :: r.spine }

/-- The kind of the innermost container. -/
def top? (r : Reader) : Option Kind := r.spine.head?.map (·.kind)

/-- Whether the innermost container is an item. -/
def inItem (r : Reader) : Bool :=
  match r.top? with
  | some (.item _) => true
  | _ => false

/-- Whether the innermost container is a list. -/
def inList (r : Reader) : Bool :=
  match r.top? with
  | some (.list _) => true
  | _ => false

/-- Closes an item without content after a blank line. -/
def settleFreshItem (r : Reader) : Reader :=
  let r := match r.freshItem with
    | some stop => if r.afterBlank && r.inItem then r.close stop else r
    | none => r
  { r with freshItem := none }

/-- Ends a list before something that is not an item of it. -/
def finishList (r : Reader) (stop : Nat) : Reader :=
  let r := r.settleFreshItem
  let r := if r.inList then r.close stop else r
  { r with afterBlank := false }

/-- Goes on with the list of a mark, or starts one. -/
def continueList (r : Reader) (start : Nat) (mark : Char) : Reader :=
  let r := r.settleFreshItem
  if r.top? = some (.list mark) then { r with afterBlank := false }
  else { (r.finishList start).enter (.list mark) start with afterBlank := false }

/-- The position after a list marker and the blanks that belong to it, with the mark and the columns
that the lines of the item are indented by. `indent` columns stand before the marker. -/
def itemStart? (indent : Nat) (h : Head) : Option (Char × Nat × Head) :=
  match marker? h.rest with
  | none => none
  | some (mark, _, size) =>
    if size = 1 && isRule h.rest then none
    else
      let h := h.past size
      match h.columns? 1 with
      | none => if h.atLineEnd then some (mark, indent + size + 1, h) else none
      | some h =>
        if startsBlank h.rest then some (mark, indent + size + 1, h)
        else
          let (more, after) := h.skipUpTo 4
          if more < 4 then some (mark, indent + size + 1 + more, after)
          else some (mark, indent + size + 1, h)

/-- Opens the containers that start in a line; `none` for the position when an item ends the line
at once, with the next line. -/
def openContainers : Nat → Reader → Head → Reader × (Head ⊕ List Char)
  | 0, r, h => (r, .inl h)
  | limit + 1, r, h =>
    let (indent, after) := h.skipUpTo 4
    if 4 ≤ indent then (r, .inl h)
    else
      let start := r.offset after.rest
      match itemStart? indent after with
      | some (mark, columns, h) =>
        let r := (r.continueList (start - indent) mark).enter (.item columns) (start - indent)
        match blankLine? h.rest with
        | some next => ({ r with freshItem := some (r.offset next) }, .inr next)
        | none => openContainers limit r h
      | none =>
        match after.rest with
        | '>' :: _ =>
          openContainers limit ((r.finishList start).enter .quote start) ((after.past 1).skip 1).2
        | _ => (r, .inl h)

/-- The containers after a blank line. An item without content goes on whatever the indentation. -/
def passBlank (r : Reader) : Reader :=
  match r.spine with
  | c :: outer =>
    match c.kind with
    | .quote => r
    | .item _ =>
      if r.freshItem.isSome then
        { r with spine := { c with kind := .item 0 } :: outer, afterBlank := true }
      else { r with afterBlank := true }
    | .list _ => { r with afterBlank := true }
  | [] => { r with afterBlank := true }

/-! ## Leaves -/

/-- The text of a heading line after its marks: blanks at its ends and closing marks are left
out. -/
def headingText (line : List Char) : List Char :=
  let text := (skipSpaces line).reverse.dropWhile (· = ' ')
  let bare := text.dropWhile (· = '#')
  match bare with
  | [] => []
  | ' ' :: _ => (bare.dropWhile (· = ' ')).reverse
  | _ => text.reverse

/-- Reads a paragraph or an underlined heading. -/
def readParagraph (r : Reader) (cs : List Char) : Reader × List Char :=
  let (lines, level, rest) := paragraphLines r.kinds (cs.length + 1) cs
  match level with
  | some level => (r.add (.heading level (Text.joinWith ['\n'] lines)), rest)
  | none => (r.add (.paragraph ⟨r.offset cs, r.offset rest⟩), rest)

/-- Reads a block of HTML, if one starts here. -/
def htmlEnd? (r : Reader) (cs : List Char) : Option (List Char) :=
  match cs with
  | '<' :: rest =>
    match blockEnd? rest with
    | some stop => some (rawHtmlRest r.kinds stop.toList (cs.length + 1) cs)
    | none =>
      if startsBlockTag rest || ((tag? false rest).bind blankLine?).isSome then
        some (htmlRest r.kinds (cs.length + 1) cs)
      else none
  | _ => none

/-- Reads what stands in a line after its containers, with the lines that belong to it. -/
def readLeaf (r : Reader) (h : Head) : Reader × List Char :=
  let (indent, after) := h.skipUpTo 4
  let cs := after.rest
  let settled := r.finishList (r.offset cs)
  if indent = 4 then
    let (rest, blank) := indentedRest settled.kinds (cs.length + 1) false cs
    ({ settled with afterBlank := blank }, rest)
  else
    match settled.htmlEnd? cs with
    | some rest => (settled, rest)
    | none =>
      if isRule cs then (settled, (cutLine cs).2)
      else match headingLevel? cs with
        | some level =>
          let (line, rest) := cutLine (cs.drop level)
          (settled.add (.heading level (headingText line)), rest)
        | none =>
          match definition? settled.kinds cs with
          | some (label, rest) =>
            ({ settled with labels := labelKey label :: settled.labels }, rest)
          | none =>
            match fence? cs with
            | some (mark, size) =>
              (settled, fencedRest settled.kinds indent mark size (cs.length + 1) (nextLine cs))
            | none => settled.readParagraph cs

/-- Reads a line with what belongs to it, and gives the rest after that. -/
def readLine (r : Reader) (line : List Char) : Reader × List Char :=
  let (n, h) := Kind.continueAll r.kinds ⟨line, 0, 0⟩
  let r := closeMany (r.offset line) (r.spine.length - n) r
  match openContainers (line.length + 1) r h with
  | (r, .inr next) => (r, next)
  | (r, .inl h) =>
    match blankLine? h.rest with
    | some next => (r.passBlank, next)
    | none => r.readLeaf h

/-- Reads lines to the end of the document and closes all containers. `limit` is at least the number
of lines. -/
def readAll : Nat → Reader → List Char → Reader
  | 0, r, _ => closeMany r.size r.spine.length r
  | _, r, [] => closeMany r.size r.spine.length r
  | limit + 1, r, cs =>
    let (r, rest) := r.readLine cs
    readAll limit r rest

end Reader

/-- The structure of a document. -/
structure Document where
  elements : List Element
  /-- The keys of the labels of links that are defined. -/
  labels : List (List Char)

/-- Reads a document. -/
def Document.ofSource (source : List Char) : Document :=
  let r := Reader.readAll (source.length + 1) { size := Text.byteLength source } source
  ⟨r.done.reverse, r.labels⟩

/-- The walk over a document. -/
def Document.events (d : Document) : List Event := Element.allEvents d.labels d.elements

/-- The reader of this library. -/
instance Document.reader : MarkupReader where
  events source := (Document.ofSource source).events

end Stencil.Markup
