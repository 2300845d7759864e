/-! XML documents as trees of elements and text, and how their text is read. Attributes, comments,
declarations, processing instructions and quoted sections carry nothing here and are skipped, and
names are read without the namespace in front of them. -/

namespace ObjectStorage

/-- A node of an XML document. -/
inductive Xml where
  | element (name : String) (children : List Xml)
  | text (content : String)

namespace Xml

/-- A piece of the text of a document. -/
inductive Token where
  | opening (name : String)
  | closing (name : String)
  | empty (name : String)
  | text (content : String)
  deriving DecidableEq, Repr

/-- Whether a character separates the parts of a tag. -/
def isBlank (c : Char) : Bool := c == ' ' || c == '\t' || c == '\n' || c == '\r'

/-- What stands before a mark, and what stands behind it. -/
def breakOn (mark : List Char) : List Char → Option (List Char × List Char)
  | [] => none
  | c :: rest =>
    if mark.isPrefixOf (c :: rest) then some ([], (c :: rest).drop mark.length)
    else (breakOn mark rest).map fun (before, behind) => (c :: before, behind)

/-- The inside of a tag up to the bracket that ends it, which does not stand in quotes. -/
def tagBody (quote : Option Char) : List Char → Option (List Char × List Char)
  | [] => none
  | c :: rest =>
    match quote with
    | none =>
      if c == '>' then some ([], rest)
      else
        -- A quote opens here, and only the same one closes it.
        let quote := if c == '"' || c == '\x27' then some c else none
        (tagBody quote rest).map fun (body, behind) => (c :: body, behind)
    | some mark =>
      (tagBody (if c == mark then none else some mark) rest).map
        fun (body, behind) => (c :: body, behind)

/-- A name without its namespace. -/
def localName (name : List Char) : List Char :=
  match name.dropWhile (· != ':') with
  | [] => name
  | _ :: behind => behind

/-- The name at the start of the inside of a tag. -/
def tagName (body : List Char) : String :=
  String.ofList (localName (body.takeWhile fun c => !isBlank c && c != '/'))

/-- What stands behind a declaration, which may hold others in brackets. -/
def skipDeclaration (bracketed : Bool) : List Char → Option (List Char)
  | [] => none
  | c :: rest =>
    -- A bracket within the declaration hides the ends of others.
    if c == '>' && !bracketed then some rest
    else skipDeclaration (c == '[' || (bracketed && c != ']')) rest

/-- The token for the inside of a tag. -/
def tagToken (body : List Char) : Option Token :=
  let token : Token :=
    match body with
    | '/' :: name => .closing (tagName name)
    | _ => if body.getLast? == some '/' then .empty (tagName body) else .opening (tagName body)
  -- A tag must have a name.
  match token with
  | .opening "" | .closing "" | .empty "" => none
  | token => some token

/-- The value of a number in a given base. -/
def numeral? (base : Nat) (digits : List Char) : Option Nat :=
  if digits.isEmpty then none
  else digits.foldlM (fun value c =>
    -- A character that is no digit counts as one that is too great.
    let digit := if c.isDigit then c.toNat - '0'.toNat
      else if c.isAlpha then c.toLower.toNat - 'a'.toNat + 10 else base
    if digit < base then some (value * base + digit) else none) 0

/-- The character with a given code point. -/
def character? (code : Nat) : Option Char :=
  if code.isValidChar && code != 0 then some (Char.ofNat code) else none

/-- The character that a reference stands for. -/
def reference? : List Char → Option Char
  | ['a', 'm', 'p'] => some '&'
  | ['l', 't'] => some '<'
  | ['g', 't'] => some '>'
  | ['q', 'u', 'o', 't'] => some '"'
  | ['a', 'p', 'o', 's'] => some '\x27'
  | '#' :: 'x' :: digits => numeral? 16 digits >>= character?
  | '#' :: digits => numeral? 10 digits >>= character?
  | _ => none

/-- Text with its references replaced. The name of a reference is gathered in reverse. -/
def unescape : Option (List Char) → List Char → Option (List Char)
  | none, [] => some []
  | some _, [] => none
  -- Outside of a reference characters stand for themselves.
  | none, c :: rest =>
    if c == '&' then unescape (some []) rest else (unescape none rest).map (c :: ·)
  | some name, c :: rest =>
    if c == ';' then do
      let meant ← reference? name.reverse
      let others ← unescape none rest
      return meant :: others
    else unescape (some (c :: name)) rest

/-- The tokens of a text, which has fewer characters than `fuel`. -/
def tokensWithin : (fuel : Nat) → List Char → Option (List Token)
  | 0, _ => none
  | fuel + 1, document =>
    match document with
    | [] => some []
    -- What is skipped has an end of its own, which is looked for first.
    | '<' :: '?' :: rest => do
      let (_, behind) ← breakOn ['?', '>'] rest
      tokensWithin fuel behind
    | '<' :: '!' :: '-' :: '-' :: rest => do
      let (_, behind) ← breakOn ['-', '-', '>'] rest
      tokensWithin fuel behind
    | '<' :: '!' :: '[' :: rest => do
      let (_, behind) ← breakOn [']', ']', '>'] rest
      tokensWithin fuel behind
    | '<' :: '!' :: rest => do tokensWithin fuel (← skipDeclaration false rest)
    | '<' :: rest => do
      let (body, behind) ← tagBody none rest
      let token ← tagToken body
      let others ← tokensWithin fuel behind
      return token :: others
    -- Text goes on up to the next markup.
    | _ => do
      let content ← unescape none (document.takeWhile (· != '<'))
      let others ← tokensWithin fuel (document.dropWhile (· != '<'))
      return Token.text (String.ofList content) :: others

/-- The tokens of a text. -/
def tokens (document : List Char) : Option (List Token) :=
  tokensWithin (document.length + 1) document

/-- An element that is not closed yet, with its children in reverse. -/
structure Frame where
  name : String
  children : List Xml

/-- Whether a token is white space between elements. -/
def Token.isBlank : Token → Bool
  | .text content => content.toList.all Xml.isBlank
  | _ => false

/-- The one element that tokens make, given the elements that are open around them. -/
def build : List Frame → List Token → Option Xml
  -- A document that ends while an element is open, or without one, is none.
  | _, [] => none
  | frames, .opening name :: rest => build (⟨name, []⟩ :: frames) rest
  | [], .empty name :: rest => if rest.all Token.isBlank then some (.element name []) else none
  | frame :: frames, .empty name :: rest =>
    build (⟨frame.name, .element name [] :: frame.children⟩ :: frames) rest
  | [], .text content :: rest =>
    if (Token.text content).isBlank then build [] rest else none
  | frame :: frames, .text content :: rest =>
    build (⟨frame.name, .text content :: frame.children⟩ :: frames) rest
  | [], .closing _ :: _ => none
  -- The outermost element is closed, so only white space may follow.
  | [frame], .closing name :: rest =>
    if frame.name == name && rest.all Token.isBlank then
      some (.element name frame.children.reverse)
    else none
  | frame :: outer :: frames, .closing name :: rest =>
    if frame.name == name then
      build (⟨outer.name, .element name frame.children.reverse :: outer.children⟩ :: frames) rest
    else none

/-- The root element of a document. A mark of the byte order may stand in front. -/
def parse? (document : String) : Option Xml :=
  let text := document.toList
  tokens (if text.head? = some '\ufeff' then text.tail else text) >>= build []

/-- The name of an element. -/
def name? : Xml → Option String
  | .element name _ => some name
  | .text _ => none

/-- The nodes inside an element. -/
def children : Xml → List Xml
  | .element _ children => children
  | .text _ => []

/-- The children with a given name. -/
def named (node : Xml) (name : String) : List Xml :=
  node.children.filter fun child => child.name? == some name

/-- The text that an element starts with. An element that starts with another has none. -/
def content? (node : Xml) : Option String :=
  match node.children with
  | [] => some ""
  | .text content :: _ => some content
  | .element _ _ :: _ => none

/-- The texts of all children with a given name. -/
def texts? (node : Xml) (name : String) : Option (List String) :=
  (node.named name).mapM content?

/-- The text of the last child with a given name, `none` inside if there is no such child. -/
def field? (node : Xml) (name : String) : Option (Option String) :=
  (node.texts? name).map List.getLast?

/-- Text with the characters replaced that would read as markup. -/
def escape (text : String) : String :=
  String.ofList <| text.toList.flatMap fun c =>
    if c == '&' then "&amp;".toList
    else if c == '<' then "&lt;".toList
    else if c == '>' then "&gt;".toList
    else if c == '"' then "&quot;".toList
    else [c]

end Xml

end ObjectStorage
