import CodeGraph.Statement.Lexer
import Mathlib.Data.List.TakeWhile

/-!
# Lexing one step after another

A text has tokens if steps lead from it to its end.  A step that ends in front of a blank or a
semicolon does not depend on what comes there, so that tokens stay what they are when more text
comes after them.
-/

namespace CodeGraph.Lexer

/-! ## Where tokens end -/

/-- No token that has been read goes on with the characters. -/
def Cuts (chars : List Char) : Prop :=
  ∀ char, chars.head? = some char → isSpace char = true ∨ char = ';'

theorem not_isWordPart_of_cut {char : Char} (cut : isSpace char = true ∨ char = ';') :
    isWordPart char = false := by
  rcases cut with space | rfl
  · unfold isSpace at space
    simp only [Bool.or_eq_true, beq_iff_eq, or_assoc] at space
    rcases space with rfl | rfl | rfl | rfl | rfl <;> decide
  · decide

theorem not_isDigit_of_cut {char : Char} (cut : isSpace char = true ∨ char = ';') :
    char.isDigit = false := by
  have noPart := not_isWordPart_of_cut cut
  rw [isWordPart, Char.isAlphanum, Bool.or_eq_false_iff, Bool.or_eq_false_iff] at noPart
  exact noPart.1.2

theorem Cuts.takeWhile_append {more : List Char} (cuts : Cuts more) {test : Char → Bool}
    (stops : ∀ char, isSpace char = true ∨ char = ';' → test char = false) (chars : List Char) :
    (chars ++ more).takeWhile test = chars.takeWhile test := by
  induction chars with
  | nil =>
      cases more with
      | nil => rfl
      | cons char rest => exact List.takeWhile_cons_of_neg (by simp [stops char (cuts char rfl)])
  | cons char chars induction =>
      rw [List.cons_append, List.takeWhile_cons, List.takeWhile_cons, induction]

theorem Cuts.dropWhile_append {more : List Char} (cuts : Cuts more) {test : Char → Bool}
    (stops : ∀ char, isSpace char = true ∨ char = ';' → test char = false) (chars : List Char) :
    (chars ++ more).dropWhile test = chars.dropWhile test ++ more := by
  have parts := List.takeWhile_append_dropWhile (p := test) (l := chars ++ more)
  rw [cuts.takeWhile_append stops] at parts
  have whole := List.takeWhile_append_dropWhile (p := test) (l := chars)
  refine (List.append_right_inj (chars.takeWhile test)).mp ?_
  rw [parts, ← List.append_assoc, whole]

/-- What is read from the characters is no blank.  If it is a token, it leaves an end of what is
given, and the same token is read when something follows that no token goes on with. -/
structure Stops (read : List Char → Step) (chars left : List Char) : Prop where
  noSpace : ∀ after, read chars ≠ .space after
  suffix : ∀ {token after}, read chars = .token token after → after <:+ left
  append : ∀ {token after}, read chars = .token token after →
    ∀ {more}, Cuts more → read (chars ++ more) = .token token (after ++ more)

namespace Stops

variable {read : List Char → Step} {chars left : List Char}

theorem of_token {token : Token} {after : List Char} (here : read chars = .token token after)
    (suffix : after <:+ left)
    (append : ∀ more, Cuts more → read (chars ++ more) = .token token (after ++ more)) :
    Stops read chars left where
  noSpace _ other := by
    rw [here] at other
    cases other
  suffix other := by
    rw [here] at other
    cases other
    exact suffix
  append other := by
    rw [here] at other
    cases other
    exact append _

theorem of_fault {fault : LexFault} (here : read chars = .fault fault) : Stops read chars left where
  noSpace _ other := by
    rw [here] at other
    cases other
  suffix other := by
    rw [here] at other
    cases other
  append other := by
    rw [here] at other
    cases other

theorem ite {condition : Prop} [Decidable condition] {first second : List Char → Step}
    (yes : condition → Stops first chars left) (no : ¬condition → Stops second chars left) :
    Stops (fun chars => if condition then first chars else second chars) chars left := by
  by_cases holds : condition
  · simpa only [if_pos holds] using yes holds
  · simpa only [if_neg holds] using no holds

end Stops

/-! ## Tokens -/

/-- An integer with the given digits. -/
def integer (negative : Bool) (whole rest : List Char) : Step :=
  let size : Int := Text.natOfDigits 10 whole
  let value := if negative then -size else size
  if PropertyValue.fitsInt64 value then .token (.int (Int64.ofInt value)) rest
  else .fault (.badNumber (if negative then '-' :: whole else whole))

theorem integer_cases (negative : Bool) (whole : List Char) :
    (∃ token, ∀ rest, integer negative whole rest = .token token rest) ∨
      ∃ fault, ∀ rest, integer negative whole rest = .fault fault := by
  unfold integer
  dsimp only
  by_cases fits : PropertyValue.fitsInt64
      (if negative then -(Text.natOfDigits 10 whole : Int) else Text.natOfDigits 10 whole) = true
  · exact .inl ⟨_, fun _ => if_pos fits⟩
  · exact .inr ⟨_, fun _ => if_neg fits⟩

theorem number_eq_integer {negative : Bool} {chars : List Char}
    (whole : ∀ digit more, chars.dropWhile Char.isDigit = '.' :: digit :: more →
      digit.isDigit = false) :
    number negative chars =
      integer negative (chars.takeWhile Char.isDigit) (chars.dropWhile Char.isDigit) := by
  unfold number
  dsimp only
  split
  next digit more found =>
    rw [whole digit more found]
    rfl
  next => rfl

theorem number_eq_float {negative : Bool} {chars more : List Char} {digit : Char}
    (found : chars.dropWhile Char.isDigit = '.' :: digit :: more)
    (isDigit : digit.isDigit = true) :
    number negative chars =
      .token (.float (Binary64.ofDecimal negative
        (Text.natOfDigits 10
          (chars.takeWhile Char.isDigit ++ (digit :: more).takeWhile Char.isDigit))
        (-((digit :: more).takeWhile Char.isDigit).length)))
        ((digit :: more).dropWhile Char.isDigit) := by
  unfold number
  rw [found]
  exact if_pos isDigit

theorem stops_number (negative : Bool) (chars : List Char) :
    Stops (number negative) chars (chars.dropWhile Char.isDigit) := by
  have digits : ∀ {more : List Char}, Cuts more → ∀ chars : List Char,
      (chars ++ more).takeWhile Char.isDigit = chars.takeWhile Char.isDigit ∧
        (chars ++ more).dropWhile Char.isDigit = chars.dropWhile Char.isDigit ++ more :=
    fun cuts chars => ⟨cuts.takeWhile_append (fun _ => not_isDigit_of_cut) chars,
      cuts.dropWhile_append (fun _ => not_isDigit_of_cut) chars⟩
  by_cases isFloat : ∃ digit more, chars.dropWhile Char.isDigit = '.' :: digit :: more ∧
      digit.isDigit = true
  · obtain ⟨digit, rest, found, isDigit⟩ := isFloat
    refine .of_token (number_eq_float found isDigit) ?_ fun more cuts => ?_
    · rw [found]
      exact (List.dropWhile_suffix _).trans (List.suffix_cons _ _)
    · obtain ⟨taken, dropped⟩ := digits cuts chars
      obtain ⟨fraction, after⟩ := digits cuts (digit :: rest)
      rw [found, List.cons_append] at dropped
      rw [number_eq_float dropped isDigit, taken]
      simp only [List.append_eq, ← List.cons_append, fraction, after]
  · have whole : ∀ digit more, chars.dropWhile Char.isDigit = '.' :: digit :: more →
        digit.isDigit = false := fun digit more found =>
      Bool.eq_false_iff.mpr fun isDigit => isFloat ⟨digit, more, found, isDigit⟩
    have here : number negative chars = _ := number_eq_integer whole
    rcases integer_cases negative (chars.takeWhile Char.isDigit) with ⟨token, same⟩ | ⟨fault, same⟩
    · refine .of_token (here.trans (same _)) List.suffix_rfl fun more cuts => ?_
      obtain ⟨taken, dropped⟩ := digits cuts chars
      rw [number_eq_integer, taken, dropped, same]
      -- no fraction begins where the digits end and the rest of the text begins
      intro digit rest found
      rw [dropped] at found
      rcases List.append_eq_cons_iff.mp found with ⟨-, rfl⟩ | ⟨tail, ending, found⟩
      · exact absurd (cuts '.' rfl) (by decide)
      · rcases List.append_eq_cons_iff.mp found.symm with ⟨-, rfl⟩ | ⟨tail, rfl, -⟩
        · exact not_isDigit_of_cut (cuts digit rfl)
        · exact whole digit tail ending
    · exact .of_fault (here.trans (same _))

private theorem Literal.of_prepend {chars body after : List Char} {literal : Literal}
    (closed : literal.prepend chars = .closed body after) :
    ∃ inner, literal = .closed inner after ∧ body = chars ++ inner := by
  cases literal with
  | closed inner rest =>
      cases closed
      exact ⟨inner, rfl, rfl⟩
  | broken inner => cases closed

theorem Literal.scan_cons {quote char : Char} (plain : char ≠ '\\') (rest : List Char) :
    scan quote (char :: rest) =
      if char = quote then closed [] rest else (scan quote rest).prepend [char] := by
  rw [scan.eq_3 quote char rest (fun _ _ same => absurd same plain), if_neg plain]

/-- What stands between the quotes of a literal: a backslash takes the next character with it,
which may not be the end of a line. -/
inductive Literal.Body (quote : Char) : List Char → Prop where
  | nil : Body quote []
  | plain {char : Char} {body : List Char} :
      char ≠ quote → char ≠ '\\' → Body quote body → Body quote (char :: body)
  | escaped {char : Char} {body : List Char} :
      char ≠ '\n' → Body quote body → Body quote ('\\' :: char :: body)

theorem Literal.body_of_scan {quote : Char} {chars body after : List Char}
    (scanned : scan quote chars = .closed body after) :
    Body quote body ∧ chars = body ++ quote :: after := by
  fun_induction scan quote chars generalizing body after with
  | case1 => cases scanned
  | case2 => cases scanned
  | case3 char rest sameLine induction =>
      obtain ⟨inner, closed, rfl⟩ := of_prepend scanned
      obtain ⟨isBody, rfl⟩ := induction closed
      exact ⟨.escaped sameLine isBody, rfl⟩
  | case4 rest =>
      cases scanned
      exact ⟨.nil, rfl⟩
  | case5 => cases scanned
  | case6 char rest _ other plain induction =>
      obtain ⟨inner, closed, rfl⟩ := of_prepend scanned
      obtain ⟨isBody, rfl⟩ := induction closed
      exact ⟨.plain other plain isBody, rfl⟩

theorem Literal.Body.scan_append {quote : Char} (plainQuote : quote ≠ '\\') {body : List Char}
    (isBody : Body quote body) (after : List Char) :
    scan quote (body ++ quote :: after) = .closed body after := by
  induction isBody with
  | nil => rw [List.nil_append, scan_cons plainQuote, if_pos rfl]
  | plain other plain _ induction =>
      rw [List.cons_append, scan_cons plain, if_neg other, induction]
      rfl
  | escaped sameLine _ induction =>
      rw [List.cons_append, List.cons_append, scan, if_neg sameLine, induction]
      rfl

/-- A literal has one extent: it goes up to the first quote that no backslash takes with it. -/
theorem Literal.scan_eq_closed_iff {quote : Char} (plainQuote : quote ≠ '\\')
    {chars body after : List Char} :
    scan quote chars = .closed body after ↔ Body quote body ∧ chars = body ++ quote :: after := by
  constructor
  · exact body_of_scan
  · rintro ⟨isBody, rfl⟩
    exact isBody.scan_append plainQuote after

theorem literal_of_body {quote : Char} (plainQuote : quote ≠ '\\') {body : List Char}
    (isBody : Literal.Body quote body) (after : List Char) :
    literal quote (body ++ quote :: after) =
      .token (.text (String.ofList (unescape body))) after := by
  simp only [literal, isBody.scan_append plainQuote]

theorem stops_literal {quote : Char} (plainQuote : quote ≠ '\\') (rest : List Char) :
    Stops (literal quote) rest rest := by
  cases scanned : Literal.scan quote rest with
  | broken body =>
      have here : literal quote rest = .fault (.unexpected (quote :: body) (quote :: rest)) := by
        simp only [literal, scanned]
      exact .of_fault here
  | closed body left =>
      obtain ⟨isBody, rfl⟩ := (Literal.scan_eq_closed_iff plainQuote).mp scanned
      have suffix : left <:+ body ++ quote :: left :=
        (List.suffix_cons quote left).trans (List.suffix_append body _)
      refine .of_token (literal_of_body plainQuote isBody left) suffix fun more _ => ?_
      rw [List.append_assoc, List.cons_append]
      exact literal_of_body plainQuote isBody (left ++ more)

theorem stops_quotedWord (rest : List Char) : Stops quotedWord rest rest := by
  cases closed : rest.dropWhile (· != '\x60') with
  | nil =>
      have here : quotedWord rest = .fault (.unexpected ('\x60' :: rest) ('\x60' :: rest)) := by
        simp only [quotedWord, closed]
      exact .of_fault here
  | cons quote left =>
      have suffix : left <:+ rest :=
        (List.suffix_cons _ _).trans (closed ▸ List.dropWhile_suffix _)
      have here : quotedWord rest =
          .token (.word (String.ofList (rest.takeWhile (· != '\x60')))) left := by
        simp only [quotedWord, closed]
      refine .of_token here suffix fun more _ => ?_
      have dropped : (rest ++ more).dropWhile (· != '\x60') = quote :: (left ++ more) := by
        rw [List.dropWhile_append, closed]
        rfl
      have taken : (rest ++ more).takeWhile (· != '\x60') = rest.takeWhile (· != '\x60') := by
        refine (List.append_left_inj (quote :: (left ++ more))).mp ?_
        rw [← dropped, List.takeWhile_append_dropWhile, dropped, ← List.cons_append, ← closed,
          ← List.append_assoc, List.takeWhile_append_dropWhile]
      simp only [quotedWord, dropped, taken]

theorem stops_parameter (rest : List Char) : Stops parameter rest rest := by
  cases name : rest.takeWhile isWordPart with
  | nil =>
      have here : parameter rest = .fault (.unexpected ['$'] ('$' :: rest)) := by
        simp only [parameter, name]
      exact .of_fault here
  | cons first others =>
      have here : parameter rest =
          .token (.parameter (String.ofList (first :: others))) (rest.dropWhile isWordPart) := by
        simp only [parameter, name]
      refine .of_token here (List.dropWhile_suffix _) fun more cuts => ?_
      simp only [parameter, cuts.takeWhile_append fun _ => not_isWordPart_of_cut,
        cuts.dropWhile_append fun _ => not_isWordPart_of_cut, name]

theorem dash_cons {char : Char} (other : char ≠ '>') (rest : List Char) :
    dash (char :: rest) =
      if char.isDigit then number true (char :: rest) else .token (.mark '-') (char :: rest) :=
  dash.eq_2 char rest fun same => other same

theorem stops_dash (rest : List Char) : Stops dash rest rest := by
  cases rest with
  | nil =>
      refine .of_token rfl List.suffix_rfl fun more cuts => ?_
      cases more with
      | nil => rfl
      | cons char more =>
          have cut := cuts char rfl
          have other : char ≠ '>' := by
            rintro rfl
            exact absurd cut (by decide)
          rw [List.nil_append, dash_cons other, not_isDigit_of_cut cut]
          rfl
  | cons char rest =>
      by_cases arrow : char = '>'
      · subst arrow
        exact .of_token rfl (List.suffix_cons _ _) fun _ _ => rfl
      · by_cases digit : char.isDigit = true
        · have same : ∀ more, dash (char :: more) = number true (char :: more) := fun more => by
            rw [dash_cons arrow, if_pos digit]
          have number := stops_number true (char :: rest)
          constructor
          case noSpace => exact fun after read => number.noSpace after (same rest ▸ read)
          case suffix =>
            intro token after read
            exact (number.suffix (same rest ▸ read)).trans (List.dropWhile_suffix _)
          case append =>
            intro token after read more cuts
            rw [List.cons_append, same]
            exact number.append (same rest ▸ read) cuts
        · have same : ∀ more, dash (char :: more) = .token (.mark '-') (char :: more) :=
            fun more => by rw [dash_cons arrow, if_neg digit]
          exact .of_token (same rest) List.suffix_rfl fun more _ => same (rest ++ more)

theorem stops_word (char : Char) (rest : List Char) :
    Stops (fun rest => .token (.word (String.ofList (char :: rest.takeWhile isWordPart)))
      (rest.dropWhile isWordPart)) rest rest := by
  refine .of_token rfl (List.dropWhile_suffix _) fun more cuts => ?_
  simp only [cuts.takeWhile_append fun _ => not_isWordPart_of_cut,
    cuts.dropWhile_append fun _ => not_isWordPart_of_cut]

theorem stops_plus (char : Char) (rest : List Char) :
    Stops (fun rest => match char, rest with
      | '+', '=' :: after => .token .plusEquals after
      | _, _ => .fault (.unexpected [char] (char :: rest))) rest rest := by
  by_cases equals : ∃ after, char = '+' ∧ rest = '=' :: after
  · obtain ⟨after, rfl, rfl⟩ := equals
    exact .of_token rfl (List.suffix_cons _ _) fun _ _ => rfl
  · refine .of_fault (?_ : _ = Step.fault (.unexpected [char] (char :: rest)))
    split
    next after => exact absurd ⟨after, rfl, rfl⟩ equals
    next => rfl

theorem step_of_isSpace {char : Char} (space : isSpace char = true) (rest : List Char) :
    step char rest = .space (rest.dropWhile isSpace) := if_pos space

/-- Whatever starts with a character that is no blank. -/
theorem stops_step {char : Char} (noSpace : isSpace char = false) (rest : List Char) :
    Stops (step char) rest rest := by
  unfold step
  simp only [noSpace, Bool.false_eq_true, if_false]
  refine .ite (fun _ => .of_token rfl List.suffix_rfl fun _ _ => rfl) fun _ =>
    .ite (fun _ => stops_word char rest) fun _ => .ite (fun digit => ?number) fun _ =>
      .ite (fun _ => stops_dash rest) fun _ => .ite (fun quotes => ?literal) fun _ =>
        .ite (fun _ => stops_quotedWord rest) fun _ => .ite (fun _ => stops_parameter rest)
          fun _ => stops_plus char rest
  case number =>
    have number := stops_number false (char :: rest)
    have shorter := List.dropWhile_cons_of_pos (p := Char.isDigit) (l := rest) digit
    rw [shorter] at number
    exact ⟨number.noSpace, fun read => (number.suffix read).trans (List.dropWhile_suffix _),
      number.append⟩
  case literal =>
    refine stops_literal ?_ rest
    rintro rfl
    exact absurd quotes (by decide)

/-! ## Texts -/

/-- What a step leaves is an end of what follows its first character. -/
theorem suffix_of_step {char : Char} {rest after : List Char}
    (read : step char rest = .space after ∨ ∃ token, step char rest = .token token after) :
    after <:+ rest := by
  cases space : isSpace char with
  | true =>
      rw [step_of_isSpace space] at read
      rcases read with same | ⟨token, other⟩
      · cases same
        exact List.dropWhile_suffix _
      · cases other
  | false =>
      have stops := stops_step space rest
      rcases read with other | ⟨token, same⟩
      · exact absurd other (stops.noSpace after)
      · exact stops.suffix same

/-- There are at most as many steps as there are characters. -/
theorem tokensWithin_congr {fuel other : Nat} {chars : List Char} (enough : chars.length ≤ fuel)
    (enoughToo : chars.length ≤ other) : tokensWithin fuel chars = tokensWithin other chars := by
  induction fuel generalizing other chars with
  | zero =>
      cases List.length_eq_zero_iff.mp (Nat.le_zero.mp enough)
      cases other <;> rfl
  | succ fuel induction =>
      cases chars with
      | nil => cases other <;> rfl
      | cons char rest =>
          cases other with
          | zero => cases enoughToo
          | succ other =>
              have same : ∀ {after : List Char}, after <:+ rest →
                  tokensWithin fuel after = tokensWithin other after := fun suffix =>
                induction (suffix.length_le.trans (Nat.le_of_succ_le_succ enough))
                  (suffix.length_le.trans (Nat.le_of_succ_le_succ enoughToo))
              rw [tokensWithin, tokensWithin]
              cases read : step char rest with
              | space after => exact same (suffix_of_step (.inl read))
              | token token after =>
                  exact congrArg (Except.map (token :: ·)) (same (suffix_of_step (.inr ⟨_, read⟩)))
              | fault fault => rfl

/-- The first step of a text, and then the text that it leaves. -/
theorem ofChars_cons (char : Char) (rest : List Char) :
    Token.ofChars (char :: rest) =
      match step char rest with
      | .space after => Token.ofChars after
      | .token token after => (Token.ofChars after).map (token :: ·)
      | .fault fault => .error fault := by
  have left : ∀ {after : List Char}, after <:+ rest →
      tokensWithin rest.length after = Token.ofChars after := fun suffix =>
    tokensWithin_congr suffix.length_le (Nat.le_refl _)
  rw [Token.ofChars, List.length_cons, tokensWithin]
  cases read : step char rest with
  | space after => exact left (suffix_of_step (.inl read))
  | token token after =>
      exact congrArg (Except.map (token :: ·)) (left (suffix_of_step (.inr ⟨_, read⟩)))
  | fault fault => rfl

theorem ofChars_of_token {char : Char} {rest after : List Char} {token : Token}
    (read : step char rest = .token token after) :
    Token.ofChars (char :: rest) = (Token.ofChars after).map (token :: ·) := by
  rw [ofChars_cons, read]

theorem ofChars_of_isSpace {char : Char} (space : isSpace char = true) (rest : List Char) :
    Token.ofChars (char :: rest) = Token.ofChars (rest.dropWhile isSpace) := by
  rw [ofChars_cons, step_of_isSpace space]

/-- Blanks at the front do not matter. -/
theorem ofChars_dropWhile (chars : List Char) :
    Token.ofChars (chars.dropWhile isSpace) = Token.ofChars chars := by
  cases chars with
  | nil => rfl
  | cons char rest =>
      cases space : isSpace char with
      | true => rw [List.dropWhile_cons_of_pos space, ofChars_of_isSpace space]
      | false => rw [List.dropWhile_cons_of_neg (Bool.eq_false_iff.mp space)]

theorem ofChars_blanks_append {blanks : List Char} (areBlank : ∀ char ∈ blanks, isSpace char = true)
    (chars : List Char) : Token.ofChars (blanks ++ chars) = Token.ofChars chars := by
  rw [← ofChars_dropWhile, List.dropWhile_append_of_pos areBlank, ofChars_dropWhile]

/-- The tokens of a text, one step after another. -/
inductive Lexes : List Char → List Token → Prop where
  | nil : Lexes [] []
  | space {char : Char} {rest : List Char} {tokens : List Token} :
      isSpace char = true → Lexes (rest.dropWhile isSpace) tokens → Lexes (char :: rest) tokens
  | token {char : Char} {rest after : List Char} {token : Token} {tokens : List Token} :
      isSpace char = false → step char rest = .token token after → Lexes after tokens →
      Lexes (char :: rest) (token :: tokens)

namespace Lexes

theorem ofChars_eq {chars : List Char} {tokens : List Token} (lexes : Lexes chars tokens) :
    Token.ofChars chars = .ok tokens := by
  induction lexes with
  | nil => rfl
  | space space _ induction => rw [ofChars_of_isSpace space, induction]
  | token _ read _ induction =>
      rw [ofChars_of_token read, induction]
      rfl

theorem of_ofChars {chars : List Char} {tokens : List Token}
    (lexed : Token.ofChars chars = .ok tokens) : Lexes chars tokens := by
  match chars with
  | [] =>
      cases lexed
      exact .nil
  | char :: rest =>
      cases space : isSpace char with
      | true =>
          rw [ofChars_of_isSpace space] at lexed
          exact .space space (of_ofChars lexed)
      | false =>
          cases read : step char rest with
          | space after => exact absurd read ((stops_step space rest).noSpace after)
          | fault fault =>
              rw [ofChars_cons, read] at lexed
              cases lexed
          | token token after =>
              rw [ofChars_of_token read] at lexed
              cases others : Token.ofChars after with
              | error fault =>
                  rw [others] at lexed
                  cases lexed
              | ok later =>
                  rw [others] at lexed
                  cases lexed
                  exact .token space read (of_ofChars others)
termination_by chars.length
decreasing_by
  · exact Nat.lt_succ_of_le (suffix_of_step (.inr ⟨_, read⟩)).length_le
  · exact Nat.lt_succ_of_le (List.dropWhile_suffix _).length_le

theorem iff_ofChars {chars : List Char} {tokens : List Token} :
    Lexes chars tokens ↔ Token.ofChars chars = .ok tokens :=
  ⟨ofChars_eq, of_ofChars⟩

theorem dropWhile {chars : List Char} {tokens : List Token} (lexes : Lexes chars tokens) :
    Lexes (chars.dropWhile isSpace) tokens := by
  rw [iff_ofChars, ofChars_dropWhile]
  exact lexes.ofChars_eq

/-- Where no token goes on, a text can be cut in two. -/
theorem append {chars more : List Char} {tokens others : List Token} (lexes : Lexes chars tokens)
    (cuts : Cuts more) (rest : Lexes more others) : Lexes (chars ++ more) (tokens ++ others) := by
  induction lexes with
  | nil => exact rest
  | @space char chars tokens space left induction =>
      refine .space space ?_
      rw [List.append_eq, List.dropWhile_append]
      cases dropped : chars.dropWhile isSpace with
      | nil =>
          rw [dropped] at left
          cases left
          exact rest.dropWhile
      | cons first following =>
          rw [dropped] at induction
          exact induction
  | token noSpace read _ induction =>
      exact .token noSpace ((stops_step noSpace _).append read cuts) induction

/-- Blanks and semicolons in front of a text. -/
theorem separated {between chars : List Char} {tokens : List Token}
    (separates : ∀ char ∈ between, isSpace char = true ∨ char = ';') (lexes : Lexes chars tokens) :
    Lexes (between ++ chars) (List.replicate (between.count ';') (.mark ';') ++ tokens) := by
  induction between with
  | nil => exact lexes
  | cons char between induction =>
      obtain ⟨first, others⟩ := List.forall_mem_cons.mp separates
      have later := induction others
      rcases first with space | rfl
      · have other : char ≠ ';' := by
          rintro rfl
          exact absurd space (by decide)
        rw [List.count_cons_of_ne other]
        exact .space space later.dropWhile
      · rw [List.count_cons_self, List.replicate_succ]
        exact .token (by decide) rfl later

end Lexes

end CodeGraph.Lexer
