import Stencil.Markup.Scan

/-!
# Tags of HTML in markup

* `blockEnd?` and `startsBlockTag` recognize lines that start a block of HTML.
* `tag?` passes over a complete tag, `inlineHtml?` over a tag, comment or instruction in a text.
-/

namespace Stencil.Markup

/-- Whether `c` is an ASCII letter. -/
def isAsciiLetter (c : Char) : Bool := c.isAlpha

/-- Drops a word, in whatever case, from the front. -/
def dropWord? (word : List Char) (cs : List Char) : Option (List Char) :=
  if (cs.take word.length).map Char.toLower = word then some (cs.drop word.length) else none

/-- The tags whose content is not markup, with the text that ends it. -/
def rawTags : List (String × String) :=
  [("pre", "</pre>"), ("style", "</style>"), ("script", "</script>"), ("textarea", "</textarea>")]

/-- The other starts of raw HTML, with the text that ends it. -/
def rawStarts : List (String × String) := [("!--", "-->"), ("?", "?>"), ("![CDATA[", "]]>")]

/-- The text that ends the block of HTML which starts with a less-than sign and this text. -/
def blockEnd? (cs : List Char) : Option String :=
  let raw := rawTags.find? fun (name, _) =>
    match dropWord? name.toList cs with
    | some rest => rest.head?.all fun c => isBlankChar c || c = '>'
    | none => false
  let start := rawStarts.find? fun (name, _) => name.toList.isPrefixOf cs
  match raw.or start with
  | some (_, stop) => some stop
  | none =>
    match cs with
    | '!' :: c :: _ => if isAsciiLetter c then some ">" else none
    | _ => none

/-- The names of the tags that start a block of HTML up to the next blank line. -/
def blockTags : List String :=
  ["address", "article", "aside", "base", "basefont", "blockquote", "body", "caption", "center",
   "col", "colgroup", "dd", "details", "dialog", "dir", "div", "dl", "dt", "fieldset",
   "figcaption", "figure", "footer", "form", "frame", "frameset", "h1", "h2", "h3", "h4", "h5",
   "h6", "head", "header", "hr", "html", "iframe", "legend", "li", "link", "main", "menu",
   "menuitem", "nav", "noframes", "ol", "optgroup", "option", "p", "param", "search", "section",
   "summary", "table", "tbody", "td", "tfoot", "th", "thead", "title", "tr", "track", "ul"]

/-- Whether a less-than sign and this text start a block of HTML by the name of its tag. -/
def startsBlockTag (cs : List Char) : Bool :=
  let cs := match cs with
    | '/' :: rest => rest
    | _ => cs
  let name := cs.takeWhile Char.isAlphanum
  let rest := cs.dropWhile Char.isAlphanum
  blockTags.contains (String.ofList (name.map Char.toLower)) &&
    match rest with
    | [] => true
    | '/' :: '>' :: _ => true
    | c :: _ => c = ' ' || c = '\t' || endsLine c || c = '>'

/-! ## Complete tags -/

/-- Blanks inside a tag, with line breaks among them if those are allowed. -/
def tagBlanks (multiline : Bool) (cs : List Char) : List Char :=
  cs.dropWhile fun c => if multiline then isBlankChar c else isSpace c

/-- The rest after the value of an attribute. -/
def attributeValue? (multiline : Bool) (cs : List Char) : Option (List Char) :=
  match cs with
  | [] => none
  | c :: rest =>
    if c = '"' || c = '\'' then
      let value := rest.takeWhile (· ≠ c)
      let after := rest.drop value.length
      if after.isEmpty || (!multiline && value.any endsLine) then none else some after.tail
    else
      let stops (d : Char) : Bool :=
        d.toNat ≤ 0x20 || d = '"' || d = '\'' || d = '=' || d = '<' || d = '>' || d = '`'
      if stops c then none else some (cs.dropWhile fun d => !stops d)

/-- The rest after an attribute. -/
def attribute? (multiline : Bool) (cs : List Char) : Option (List Char) :=
  match cs with
  | c :: _ =>
    if isAsciiLetter c || c = '_' || c = ':' then
      let rest := cs.dropWhile fun d =>
        d.isAlphanum || d = '_' || d = '.' || d = ':' || d = '-'
      match tagBlanks multiline rest with
      | '=' :: value => attributeValue? multiline (tagBlanks multiline value)
      | _ => some rest
    else none
  | [] => none

/-- The rest after the attributes of a tag and its end. `limit` bounds their number. -/
def attributes? (multiline : Bool) : Nat → List Char → Option (List Char)
  | 0, _ => none
  | limit + 1, cs =>
    let rest := tagBlanks multiline cs
    match rest with
    | '>' :: after => some after
    | '/' :: '>' :: after => some after
    | _ =>
      if rest.length = cs.length then none
      else (attribute? multiline rest).bind (attributes? multiline limit)

/-- The rest after a complete tag that starts with a less-than sign and this text. -/
def tag? (multiline : Bool) (cs : List Char) : Option (List Char) :=
  let (closing, cs) := match cs with
    | '/' :: rest => (true, rest)
    | _ => (false, cs)
  if !cs.head?.any isAsciiLetter then none
  else
    let rest := cs.dropWhile fun c => c.isAlphanum || c = '-'
    if closing then
      match tagBlanks multiline rest with
      | '>' :: after => some after
      | _ => none
    else attributes? multiline (rest.length + 1) rest

/-- The rest after a tag, comment, instruction or declaration that starts with a less-than sign and
this text. -/
def inlineHtml? (cs : List Char) : Option (List Char) :=
  let after (stop : String) (rest : List Char) : Option (List Char) :=
    (Text.cutAt? stop.toList rest).map (·.2)
  match cs with
  | '!' :: '-' :: '-' :: '>' :: rest => some rest
  | '!' :: '-' :: '-' :: '-' :: '>' :: rest => some rest
  | '!' :: '-' :: '-' :: rest => after "-->" rest
  | '?' :: rest => after "?>" rest
  | '!' :: '[' :: rest =>
    match "CDATA[".toList.isPrefixOf? rest with
    | some rest => after "]]>" rest
    | none => none
  | '!' :: c :: rest => if isAsciiLetter c then after ">" rest else none
  | _ => tag? true cs

end Stencil.Markup
