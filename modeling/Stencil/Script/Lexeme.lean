import Stencil.Decimal.Numeral
import Stencil.SyntaxError
import Stencil.Text.Blank
import Stencil.Text.Letter

/-!
# Reading lexemes

A script is cut into lexemes from the left. Blanks and comments are passed over; a line feed is a
token of its own.

* `scanText?` reads a quoted text, `scanTemplate?` a template literal, `scanNumber` a numeral and
  `readSymbol?` the longest symbol.
* `Lexeme.ofScript` cuts a whole script.
* each scanner leaves a rest that is shorter than what it was given, which bounds the run.
-/

namespace Stencil.Script

/-- The character that a backslash in front of `c` stands for. -/
def unescape (c : Char) : Char :=
  if c = 'n' then '\n' else if c = 't' then '\t' else if c = 'r' then '\r'
  else if c = '0' then '\x00' else c

/-- Reads a quoted text after its opening quote: the text and the rest after the closing quote. A
line feed ends it only when escaped. -/
def scanText? (mark : Char) : List Char → Option (List Char × List Char)
  | [] => none
  | '\\' :: c :: cs => (scanText? mark cs).map fun (text, rest) => (unescape c :: text, rest)
  | '\\' :: [] => none
  | c :: cs =>
    if c = mark then some ([], cs)
    else if c = '\n' then none
    else (scanText? mark cs).map fun (text, rest) => (c :: text, rest)

/-- Reads a template literal after its opening mark: its raw body and the rest after the closing
mark. `depth` counts the braces open inside a hole. -/
def scanTemplate? (depth : Nat) : List Char → Option (List Char × List Char)
  | [] => none
  | '\\' :: c :: cs => (scanTemplate? depth cs).map fun (body, rest) => ('\\' :: c :: body, rest)
  | '\\' :: [] => none
  | '$' :: '\x7b' :: cs =>
    (scanTemplate? (depth + 1) cs).map fun (body, rest) => ('$' :: '\x7b' :: body, rest)
  | c :: cs =>
    if c = '`' && depth = 0 then some ([], cs)
    else
      let depth :=
        if c = '\x7b' && 0 < depth then depth + 1 else if c = '\x7d' then depth - 1 else depth
      (scanTemplate? depth cs).map fun (body, rest) => (c :: body, rest)

/-- The longest start of a text that is made of digits and of points followed by a digit. -/
def scanNumber : List Char → List Char × List Char
  | [] => ([], [])
  | c :: cs =>
    if c.isDigit || (c = '.' && (cs.head?.any Char.isDigit)) then
      let (digits, rest) := scanNumber cs
      (c :: digits, rest)
    else ([], c :: cs)

/-- Whether a name may start with `c`. -/
def startsName (c : Char) : Bool := Text.isLetter c || c = '_' || c = '$'

/-- Whether a name may go on with `c`. -/
def continuesName (c : Char) : Bool := Text.isWordChar c || c = '_' || c = '$'

/-- The token of a word: a keyword or a name. -/
def Token.ofWord (word : String) : Token :=
  if word = "true" then .keyword .yes
  else if word = "false" then .keyword .no
  else if word = "null" || word = "undefined" then .keyword .null
  else if word = "let" || word = "var" || word = "const" then .keyword .declare
  else if word = "if" then .keyword .branch
  else if word = "else" then .keyword .otherwise
  else .name word

/-- Reads the longest symbol. -/
def readSymbol? : List Char → Option (Symbol × List Char)
  | '=' :: '=' :: '=' :: cs => some (.equal, cs)
  | '!' :: '=' :: '=' :: cs => some (.notEqual, cs)
  | '=' :: '=' :: cs => some (.equal, cs)
  | '!' :: '=' :: cs => some (.notEqual, cs)
  | '>' :: '=' :: cs => some (.greaterEqual, cs)
  | '<' :: '=' :: cs => some (.lessEqual, cs)
  | '&' :: '&' :: cs => some (.and, cs)
  | '|' :: '|' :: cs => some (.or, cs)
  | '?' :: '?' :: cs => some (.coalesce, cs)
  | '=' :: cs => some (.assign, cs)
  | '>' :: cs => some (.greater, cs)
  | '<' :: cs => some (.less, cs)
  | '!' :: cs => some (.not, cs)
  | '?' :: cs => some (.question, cs)
  | ':' :: cs => some (.colon, cs)
  | ',' :: cs => some (.comma, cs)
  | '.' :: cs => some (.dot, cs)
  | ';' :: cs => some (.semicolon, cs)
  | '+' :: cs => some (.plus, cs)
  | '-' :: cs => some (.minus, cs)
  | '*' :: cs => some (.star, cs)
  | '/' :: cs => some (.slash, cs)
  | '%' :: cs => some (.percent, cs)
  | '(' :: cs => some (.leftParen, cs)
  | ')' :: cs => some (.rightParen, cs)
  | '[' :: cs => some (.leftBracket, cs)
  | ']' :: cs => some (.rightBracket, cs)
  | '\x7b' :: cs => some (.leftBrace, cs)
  | '\x7d' :: cs => some (.rightBrace, cs)
  | _ => none

/-- Reads what starts at the character `c` before `cs`: a token, or `none` for a blank or a
comment, and the rest. `offset` is where `c` stands. -/
def readToken (offset : Nat) (c : Char) (cs : List Char) :
    Except Fault (Option Token × List Char) :=
  let toEnd : Span := ⟨offset, offset + Text.byteLength (c :: cs)⟩
  if c = '\n' then .ok (some .lineBreak, cs)
  else if Text.isBlank c then .ok (none, cs)
  else if c = '/' && cs.head? = some '/' then .ok (none, cs.dropWhile (· ≠ '\n'))
  else if c = '/' && cs.head? = some '*' then
    match Text.cutAt? ['*', '/'] cs.tail with
    | some (_, rest) => .ok (none, rest)
    | none => .error ⟨.unterminatedComment, toEnd⟩
  else if c = '"' || c = '\'' then
    match scanText? c cs with
    | some (text, rest) => .ok (some (.text (String.ofList text)), rest)
    | none => .error ⟨.unterminatedText, toEnd⟩
  else if c = '`' then
    match scanTemplate? 0 cs with
    | some (body, rest) => .ok (some (.template body (offset + 1)), rest)
    | none => .error ⟨.unterminatedTemplate, toEnd⟩
  else if c.isDigit then
    let (digits, rest) := scanNumber (c :: cs)
    match Decimal.readNumeral? digits with
    | some value => .ok (some (.number value), rest)
    | none =>
      .error ⟨.invalidNumber (String.ofList digits), ⟨offset, offset + Text.byteLength digits⟩⟩
  else if startsName c then
    .ok (some (.ofWord (String.ofList (c :: cs.takeWhile continuesName))),
      cs.dropWhile continuesName)
  else
    match readSymbol? (c :: cs) with
    | some (sign, rest) => .ok (some (.symbol sign), rest)
    | none => .error ⟨.unexpectedChar c, ⟨offset, offset + c.utf8Size⟩⟩

/-! ## The rest is shorter -/

theorem scanText?_length {mark : Char} {cs text rest : List Char}
    (h : scanText? mark cs = some (text, rest)) : rest.length < cs.length := by
  fun_induction scanText? mark cs generalizing text with
  | case1 => simp at h
  | case2 c cs ih =>
    obtain ⟨⟨t, r⟩, ht, he⟩ := Option.map_eq_some_iff.1 h
    simp only [Prod.mk.injEq] at he
    have := ih (he.2 ▸ ht)
    simp only [List.length_cons]; omega
  | case3 => simp at h
  | case4 c cs => simp_all
  | case5 => simp at h
  | case6 c cs _ _ _ _ ih =>
    obtain ⟨⟨t, r⟩, ht, he⟩ := Option.map_eq_some_iff.1 h
    simp only [Prod.mk.injEq] at he
    have := ih (he.2 ▸ ht)
    simp only [List.length_cons]; omega

theorem scanTemplate?_length {depth : Nat} {cs body rest : List Char}
    (h : scanTemplate? depth cs = some (body, rest)) : rest.length < cs.length := by
  fun_induction scanTemplate? depth cs generalizing body with
  | case1 => simp at h
  | case2 depth c cs ih =>
    obtain ⟨⟨t, r⟩, ht, he⟩ := Option.map_eq_some_iff.1 h
    simp only [Prod.mk.injEq] at he
    have := ih (he.2 ▸ ht)
    simp only [List.length_cons]; omega
  | case3 => simp at h
  | case4 depth cs ih =>
    obtain ⟨⟨t, r⟩, ht, he⟩ := Option.map_eq_some_iff.1 h
    simp only [Prod.mk.injEq] at he
    have := ih (he.2 ▸ ht)
    simp only [List.length_cons]; omega
  | case5 depth c cs => simp_all
  | case6 =>
    rename_i ih
    obtain ⟨⟨t, r⟩, ht, he⟩ := Option.map_eq_some_iff.1 h
    simp only [Prod.mk.injEq] at he
    have := ih (he.2 ▸ ht)
    simp only [List.length_cons]; omega

theorem scanNumber_length (cs : List Char) : (scanNumber cs).2.length ≤ cs.length := by
  fun_induction scanNumber cs with
  | case1 => simp
  | case2 c cs _ digits rest hs ih =>
    simp only [hs] at ih
    simp only [List.length_cons]; omega
  | case3 => simp

theorem readSymbol?_length {cs rest : List Char} {sign : Symbol}
    (h : readSymbol? cs = some (sign, rest)) : rest.length < cs.length := by
  unfold readSymbol? at h
  split at h <;> simp only [Option.some.injEq, Prod.mk.injEq, reduceCtorEq] at h <;>
    (obtain ⟨-, rfl⟩ := h; simp only [List.length_cons]; omega)

theorem readToken_length {offset : Nat} {c : Char} {cs rest : List Char} {token : Option Token}
    (h : readToken offset c cs = .ok (token, rest)) : rest.length ≤ cs.length := by
  have hd (p : Char → Bool) : (cs.dropWhile p).length ≤ cs.length :=
    (List.dropWhile_sublist p).length_le
  unfold readToken at h
  split at h
  · simp_all
  split at h
  · simp_all
  split at h
  · simp only [Except.ok.injEq, Prod.mk.injEq] at h
    exact h.2 ▸ hd _
  split at h
  · split at h
    · next before rest' hc =>
      simp only [Except.ok.injEq, Prod.mk.injEq] at h
      have h1 := Text.cutAt?_length hc
      have h2 := List.length_tail (l := cs)
      rw [← h.2]; omega
    · simp at h
  split at h
  · split at h
    · next text rest' hc =>
      simp only [Except.ok.injEq, Prod.mk.injEq] at h
      have := scanText?_length hc
      rw [← h.2]; omega
    · simp at h
  split at h
  · split at h
    · next text rest' hc =>
      simp only [Except.ok.injEq, Prod.mk.injEq] at h
      have := scanTemplate?_length hc
      rw [← h.2]; omega
    · simp at h
  split at h
  · next hc =>
    have hn : (scanNumber (c :: cs)).2.length ≤ cs.length := by
      have := scanNumber_length cs
      simpa [scanNumber, hc] using this
    dsimp only at h
    split at h
    · simp only [Except.ok.injEq, Prod.mk.injEq] at h
      rw [← h.2]; exact hn
    · simp at h
  split at h
  · simp only [Except.ok.injEq, Prod.mk.injEq] at h
    exact h.2 ▸ hd _
  split at h
  · next sign rest' hc =>
    simp only [Except.ok.injEq, Prod.mk.injEq] at h
    have := readSymbol?_length hc
    simp only [List.length_cons] at this
    rw [← h.2]; omega
  · simp at h

/-! ## The whole script -/

/-- Cuts a script that starts at byte `offset` of its source into lexemes. -/
def Lexeme.ofScript (offset : Nat) (cs : List Char) : Except Fault (List Lexeme) :=
  match cs with
  | [] => .ok []
  | c :: cs =>
    match _h : readToken offset c cs with
    | .error fault => .error fault
    | .ok (token, rest) =>
      let stop := offset + (Text.byteLength (c :: cs) - Text.byteLength rest)
      (ofScript stop rest).map fun lexemes =>
        match token with
        | some token => ⟨token, ⟨offset, stop⟩⟩ :: lexemes
        | none => lexemes
termination_by cs.length
decreasing_by exact Nat.lt_succ_of_le (readToken_length _h)

end Stencil.Script
