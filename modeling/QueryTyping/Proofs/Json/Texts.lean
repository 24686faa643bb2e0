import QueryTyping.Json.Printer
import QueryTyping.Json.Reader

/-!
# JSON is read as it is printed

A printed value is divided into the tokens that it was put together from (`Plain.lexes`), and its
tokens are put together to the value (`Plain.foldlM_step`). So the text of a value is read as this
value (`Json.parse?_render`).

This holds of every value without numbers that is not nested too deeply (`Json.Plain`). The texts in
it may hold any character: whatever is escaped in print is no quotation mark or backslash that ends
or continues a text, and stands for the same character again (`textPieces?_escape`).
-/

namespace QueryTyping

namespace Json

/-- The value holds no number, and at most `depth` containers are nested in it. -/
inductive Plain : Nat → Json → Prop where
  | null {depth : Nat} : Plain depth .null
  | bool {depth : Nat} (value : Bool) : Plain depth (.bool value)
  | string {depth : Nat} (value : String) : Plain depth (.string value)
  | array {depth : Nat} {items : List Json} (h : ∀ item ∈ items, Plain depth item) :
      Plain (depth + 1) (.array items)
  | object {depth : Nat} {members : List (String × Json)}
      (h : ∀ member ∈ members, Plain depth member.2) : Plain (depth + 1) (.object members)

/-! ## Texts -/

theorem hexValue?_hexDigit : ∀ n < 16, hexValue? (hexDigit n) = some n := by
  decide

theorem hexDigit_ne : ∀ n < 16, hexDigit n ≠ '"' ∧ hexDigit n ≠ '\\' := by
  decide

/-- The digits of a control character. -/
theorem hexDigits_control {n : Nat} (h : n < 0x20) :
    hexDigits 4 n = [hexDigit 0, hexDigit 0, hexDigit (n / 16), hexDigit (n % 16)] := by
  have hpast : n / 256 = 0 ∧ n / 4096 = 0 := by omega
  simp [hexDigits, List.range_succ, hpast, hexDigit]

/-- A character is escaped by a letter or by its number, or stands as it is. -/
theorem escapeChar_cases (c : Char) :
    (∃ letter, escapeChar c = ['\\', letter] ∧ letter ≠ 'u' ∧ escapedChar? letter = some c) ∨
    (c.toNat < 0x20 ∧ escapeChar c = '\\' :: 'u' :: hexDigits 4 c.toNat) ∨
    (¬c.toNat < 0x20 ∧ c ≠ '"' ∧ c ≠ '\\' ∧ escapeChar c = [c]) := by
  by_cases hletter : c ∈ ['"', '\\', '\x08', '\x0c', '\n', '\r', '\t']
  · left
    simp only [List.mem_cons, List.not_mem_nil, or_false] at hletter
    rcases hletter with rfl | rfl | rfl | rfl | rfl | rfl | rfl
    · exact ⟨'"', by decide⟩
    · exact ⟨'\\', by decide⟩
    · exact ⟨'b', by decide⟩
    · exact ⟨'f', by decide⟩
    · exact ⟨'n', by decide⟩
    · exact ⟨'r', by decide⟩
    · exact ⟨'t', by decide⟩
  · right
    simp only [List.mem_cons, List.not_mem_nil, or_false, not_or] at hletter
    by_cases hcontrol : c.toNat < 0x20
    · exact Or.inl ⟨hcontrol, by simp [escapeChar, hletter, hcontrol]⟩
    · exact Or.inr ⟨hcontrol, hletter.1, hletter.2.1, by simp [escapeChar, hletter, hcontrol]⟩

/-- An escaped character is read as this character. -/
theorem textPieces?_escapeChar (c : Char) (rest : List Char) :
    textPieces? (escapeChar c ++ rest) = (textPieces? rest).map (.char c :: ·) := by
  rcases escapeChar_cases c with ⟨letter, hescape, hletter, hchar⟩ | ⟨hcontrol, hescape⟩ |
    ⟨hcontrol, -, hbackslash, hescape⟩
  · rw [hescape]
    show textPieces? ('\\' :: letter :: rest) = _
    rw [textPieces?, hchar]
    · cases textPieces? rest <;> rfl
    · intro a b c' d rest' hu
      exact absurd hu hletter
  · rw [hescape, hexDigits_control hcontrol]
    show textPieces? ('\\' :: 'u' :: hexDigit 0 :: hexDigit 0 :: hexDigit (c.toNat / 16) ::
      hexDigit (c.toNat % 16) :: rest) = _
    rw [textPieces?, hexValue?_hexDigit 0 (by omega), hexValue?_hexDigit (c.toNat / 16) (by omega),
      hexValue?_hexDigit (c.toNat % 16) (by omega)]
    have hunit : ((0 * 16 + 0) * 16 + c.toNat / 16) * 16 + c.toNat % 16 = c.toNat := by omega
    have hpiece : TextPiece.ofUnit c.toNat = .char c := by
      unfold TextPiece.ofUnit
      rw [if_neg (by omega), if_neg (by omega), Char.ofNat_toNat]
    simp only [Option.bind_eq_bind, Option.bind_some, hunit, hpiece]
    cases textPieces? rest <;> rfl
  · rw [hescape]
    show textPieces? (c :: rest) = _
    rw [textPieces?, if_neg (by simp [hcontrol, hbackslash])]
    · cases textPieces? rest <;> rfl
    · intro a b c' d rest' hc
      exact absurd hc hbackslash
    · intro a rest' hc
      exact absurd hc hbackslash

theorem textPieces?_escape (text : List Char) :
    textPieces? (text.flatMap escapeChar) = some (text.map .char) := by
  induction text with
  | nil => rfl
  | cons c text ih =>
    rw [List.flatMap_cons, textPieces?_escapeChar, ih]
    rfl

theorem joinPieces?_chars (text : List Char) : joinPieces? (text.map .char) = some text := by
  induction text with
  | nil => rfl
  | cons c text ih =>
    rw [List.map_cons, joinPieces?, ih]
    rfl

theorem ofText?_escape (text : String) :
    Token.ofText? (text.toList.flatMap escapeChar) = some (.text (some text)) := by
  rw [Token.ofText?, textPieces?_escape, Option.map_some, joinPieces?_chars, Option.map_some,
    String.ofList_toList]

/-- Inside quotation marks an escaped character is taken as a whole. -/
theorem tokensFrom_escapeChar (c : Char) (taken rest : List Char) :
    tokensFrom (.text taken) (escapeChar c ++ rest) =
      tokensFrom (.text ((escapeChar c).reverse ++ taken)) rest := by
  rcases escapeChar_cases c with ⟨letter, hescape, -, -⟩ | ⟨hcontrol, hescape⟩ |
    ⟨-, hquote, hbackslash, hescape⟩
  · rw [hescape]
    simp [tokensFrom]
  · have hfirst := hexDigit_ne 0 (by omega)
    have hhigh := hexDigit_ne (c.toNat / 16) (by omega)
    have hlow := hexDigit_ne (c.toNat % 16) (by omega)
    rw [hescape, hexDigits_control hcontrol]
    simp [tokensFrom, hfirst, hhigh, hlow]
  · rw [hescape]
    simp [tokensFrom, hquote, hbackslash]

theorem tokensFrom_escape (text taken rest : List Char) :
    tokensFrom (.text taken) (text.flatMap escapeChar ++ rest) =
      tokensFrom (.text ((text.flatMap escapeChar).reverse ++ taken)) rest := by
  induction text generalizing taken with
  | nil => rfl
  | cons c text ih =>
    rw [List.flatMap_cons, List.append_assoc, tokensFrom_escapeChar, ih, List.reverse_append,
      List.append_assoc]

/-! ## Tokens -/

mutual

/-- The tokens that a value is put together from, if it holds no number. -/
def tokens : Json → List Token
  | null => [.atom .null]
  | bool value => [.atom (.bool value)]
  | string value => [.text (some value)]
  | array items => .openArray :: [.comma].intercalate (itemTokens items) ++ [.closeArray]
  | object members => .openObject :: [.comma].intercalate (memberTokens members) ++ [.closeObject]
  | number _ | unreadable => []

/-- The tokens of each item of an array. -/
def itemTokens : List Json → List (List Token)
  | [] => []
  | item :: rest => item.tokens :: itemTokens rest

/-- The tokens of each member of an object. -/
def memberTokens : List (String × Json) → List (List Token)
  | [] => []
  | (name, value) :: rest => (.text (some name) :: .colon :: value.tokens) :: memberTokens rest

end

theorem itemTokens_eq_map (items : List Json) : itemTokens items = items.map tokens := by
  induction items with
  | nil => rw [itemTokens, List.map_nil]
  | cons item rest ih => rw [itemTokens, ih, List.map_cons]

theorem memberTokens_eq_map (members : List (String × Json)) :
    memberTokens members =
      members.map fun member => .text (some member.1) :: .colon :: member.2.tokens := by
  induction members with
  | nil => rw [memberTokens, List.map_nil]
  | cons member rest ih => rw [memberTokens, ih, List.map_cons]

theorem renderItems_eq_map (items : List Json) : renderItems items = items.map render := by
  induction items with
  | nil => rw [renderItems, List.map_nil]
  | cons item rest ih => rw [renderItems, ih, List.map_cons]

theorem renderMembers_eq_map (members : List (String × Json)) :
    renderMembers members =
      members.map fun member => quote member.1 ++ ":" ++ member.2.render := by
  induction members with
  | nil => rw [renderMembers, List.map_nil]
  | cons member rest ih => rw [renderMembers, ih, List.map_cons]

/-! ## Division into tokens -/

/-- The rest of a text ends a word: it is empty or begins with a structural character. -/
def EndsWord (rest : List Char) : Prop :=
  ∀ c cs, rest = c :: cs → (Token.ofChar? c).isSome

/-- A text is divided into the tokens, whatever comes after the end of its last word. -/
def Lexes (text : List Char) (tokens : List Token) : Prop :=
  ∀ rest, EndsWord rest →
    tokensFrom .between (text ++ rest) = (tokensFrom .between rest).map (tokens ++ ·)

theorem endsWord_nil : EndsWord [] := by
  intro c cs h
  cases h

theorem endsWord_cons {c : Char} {token : Token} (h : Token.ofChar? c = some token)
    (cs : List Char) : EndsWord (c :: cs) := by
  rintro _ _ ⟨⟩
  simp [h]

theorem structural_ne {c : Char} {token : Token} (h : Token.ofChar? c = some token) :
    isSpace c = false ∧ c ≠ '"' := by
  unfold Token.ofChar? at h
  split at h
  all_goals first | decide | cases h

theorem tokensFrom_structural {c : Char} {token : Token} (h : Token.ofChar? c = some token)
    (cs : List Char) :
    tokensFrom .between (c :: cs) = (tokensFrom .between cs).map (token :: ·) := by
  obtain ⟨hspace, hquote⟩ := structural_ne h
  rw [tokensFrom, hspace, if_neg Bool.false_ne_true, if_neg hquote, h]

/-- A structural character between two texts. -/
theorem Lexes.separated {first second : List Char} {left right : List Token} {c : Char}
    {token : Token} (hfirst : Lexes first left) (hsecond : Lexes second right)
    (hc : Token.ofChar? c = some token) :
    Lexes (first ++ c :: second) (left ++ token :: right) := by
  intro rest hrest
  rw [List.append_assoc, List.cons_append, hfirst _ (endsWord_cons hc _),
    tokensFrom_structural hc, hsecond rest hrest]
  simp [Option.map_map, Function.comp_def]

theorem lexes_nil : Lexes [] [] := by
  intro rest _
  simp

/-- Texts with commas between them. -/
theorem lexes_intercalate {α : Type} {text : α → List Char} {tokens : α → List Token}
    {values : List α} (h : ∀ value ∈ values, Lexes (text value) (tokens value)) :
    Lexes ([','].intercalate (values.map text)) ([.comma].intercalate (values.map tokens)) := by
  induction values with
  | nil => exact lexes_nil
  | cons value values ih =>
    have hvalue := h value List.mem_cons_self
    have hvalues := ih fun other hother => h other (List.mem_cons_of_mem _ hother)
    cases values with
    | nil => simpa using hvalue
    | cons next values =>
      simp only [List.map_cons, List.intercalate_cons_cons, List.append_assoc] at hvalues ⊢
      exact hvalue.separated hvalues rfl

/-- A text between brackets. -/
theorem Lexes.enclosed {text : List Char} {tokens : List Token} {opening closing : Token}
    (h : Lexes text tokens) (first last : Char) (hfirst : Token.ofChar? first = some opening)
    (hlast : Token.ofChar? last = some closing) :
    Lexes (first :: text ++ [last]) (opening :: tokens ++ [closing]) :=
  (lexes_nil.separated h hfirst).separated lexes_nil hlast

theorem lexes_quote (text : String) : Lexes (quote text).toList [.text (some text)] := by
  intro rest _
  have hquote : (quote text).toList ++ rest =
      '"' :: (text.toList.flatMap escapeChar ++ '"' :: rest) := by
    simp [quote]
  rw [hquote, tokensFrom, if_neg (by decide), if_pos rfl, tokensFrom_escape, tokensFrom, if_pos rfl,
    List.append_nil, List.reverse_reverse, ofText?_escape]
  cases tokensFrom .between rest <;> rfl

/-- A word is complete where a structural character follows, or nothing. -/
theorem tokensFrom_word (taken : List Char) {rest : List Char} {token : Token}
    (hrest : EndsWord rest) (hword : Token.ofWord? taken.reverse = some token) :
    tokensFrom (.word taken) rest = (tokensFrom .between rest).map (token :: ·) := by
  cases rest with
  | nil =>
    show (Token.ofWord? taken.reverse).map ([·]) = _
    rw [hword]
    rfl
  | cons c cs =>
    obtain ⟨next, hnext⟩ := Option.isSome_iff_exists.mp (hrest c cs rfl)
    obtain ⟨hspace, hquote⟩ := structural_ne hnext
    rw [tokensFrom_structural hnext, tokensFrom, hword]
    simp only [hspace, Bool.false_eq_true, if_false, if_neg hquote, hnext]
    cases tokensFrom .between cs <;> rfl

theorem lexes_null : Lexes "null".toList [.atom .null] := by
  intro rest hrest
  exact tokensFrom_word "null".toList.reverse hrest rfl

theorem lexes_bool (value : Bool) : Lexes (render (.bool value)).toList [.atom (.bool value)] := by
  intro rest hrest
  cases value with
  | true => exact tokensFrom_word "true".toList.reverse hrest rfl
  | false => exact tokensFrom_word "false".toList.reverse hrest rfl

/-- The text of a value is divided into its tokens. -/
theorem Plain.lexes {depth : Nat} {json : Json} (h : json.Plain depth) :
    Lexes json.render.toList json.tokens := by
  induction h with
  | null => exact lexes_null
  | bool value => exact lexes_bool value
  | string value => exact lexes_quote value
  | @array _ items _ ih =>
    have hitems := (lexes_intercalate ih).enclosed '[' ']' rfl rfl
    simpa [render, tokens, renderItems_eq_map, itemTokens_eq_map, List.map_map,
      Function.comp_def] using hitems
  | @object _ members _ ih =>
    have hmember : ∀ member ∈ members,
        Lexes ((quote member.1).toList ++ ':' :: member.2.render.toList)
          (.text (some member.1) :: .colon :: member.2.tokens) := fun member hmember =>
      (lexes_quote member.1).separated (ih member hmember) rfl
    have hmembers := (lexes_intercalate hmember).enclosed '\x7b' '\x7d' rfl rfl
    simpa [render, tokens, renderMembers_eq_map, memberTokens_eq_map, List.map_map,
      Function.comp_def] using hmembers

/-! ## Putting tokens together -/

open Progress (step? deliver finish close)

theorem Plain.exists_cons {depth : Nat} {json : Json} (h : json.Plain depth) :
    ∃ token rest, json.tokens = token :: rest ∧ token ≠ .closeArray := by
  cases h with
  | null => exact ⟨_, _, rfl, nofun⟩
  | bool value => exact ⟨_, _, rfl, nofun⟩
  | string value => exact ⟨_, _, rfl, nofun⟩
  | array h => exact ⟨_, _, rfl, nofun⟩
  | object h => exact ⟨_, _, rfl, nofun⟩

/-- The first item of an array is begun like any value. -/
theorem foldlM_firstItem {containers : List Container} {token : Token} (h : token ≠ .closeArray)
    (rest : List Token) :
    (token :: rest).foldlM step? ⟨containers, .firstItem⟩ =
      (token :: rest).foldlM step? ⟨containers, .value⟩ := by
  have hstep : step? ⟨containers, .firstItem⟩ token = step? ⟨containers, .value⟩ token := by
    cases token with
    | closeArray => exact absurd rfl h
    | openArray => rfl
    | openObject => rfl
    | closeObject => rfl
    | colon => rfl
    | comma => rfl
    | text value => rfl
    | atom value => rfl
  rw [List.foldlM_cons, List.foldlM_cons, hstep]

/-- The tokens of several values with commas between them. Each value leads from `before` the value
to `after` it, and a comma back. -/
theorem foldlM_intercalate {α : Type} {before after : List α → Progress} {tokens : α → List Token}
    {values : List α} (hne : values ≠ [])
    (hvalue : ∀ value ∈ values, ∀ taken,
      (tokens value).foldlM step? (before taken) = some (after (value :: taken)))
    (hcomma : ∀ taken, step? (after taken) .comma = some (before taken)) (taken : List α) :
    ([.comma].intercalate (values.map tokens)).foldlM step? (before taken) =
      some (after (values.reverse ++ taken)) := by
  induction values generalizing taken with
  | nil => exact absurd rfl hne
  | cons value values ih =>
    have hfirst := hvalue value List.mem_cons_self taken
    cases values with
    | nil => simpa using hfirst
    | cons next values =>
      have hrest := ih (by simp) (fun other hother => hvalue other (List.mem_cons_of_mem _ hother))
        (value :: taken)
      rw [List.map_cons] at hrest
      rw [List.map_cons, List.map_cons, List.intercalate_cons_cons, List.append_assoc,
        List.foldlM_append, hfirst]
      show ((.comma :: [.comma].intercalate (tokens next :: values.map tokens)).foldlM step?
        (after (value :: taken))) = _
      rw [List.foldlM_cons, hcomma, Option.bind_eq_bind, Option.bind_some, hrest]
      simp

/-- The tokens of an array put its items into a new container and close it. -/
theorem foldlM_array {depth : Nat} {containers : List Container} {items : List Json}
    (hplain : ∀ item ∈ items, item.Plain depth)
    (hitem : ∀ item ∈ items, ∀ taken, item.tokens.foldlM step? ⟨.array taken :: containers, .value⟩ =
      some ⟨.array (item :: taken) :: containers, .separator⟩) :
    (Json.array items).tokens.foldlM step? ⟨containers, .value⟩ =
      some (finish (.array items.reverse) containers) := by
  rw [tokens, itemTokens_eq_map, List.cons_append, List.foldlM_cons]
  show ([Token.comma].intercalate (items.map tokens) ++ [Token.closeArray]).foldlM step?
    ⟨.array [] :: containers, .firstItem⟩ = _
  cases items with
  | nil => rfl
  | cons item items =>
    let before : List Json → Progress := fun taken => ⟨.array taken :: containers, .value⟩
    let after : List Json → Progress := fun taken => ⟨.array taken :: containers, .separator⟩
    have hitems : ([.comma].intercalate ((item :: items).map tokens)).foldlM step? (before []) =
        some (after ((item :: items).reverse ++ [])) :=
      foldlM_intercalate (by simp) hitem (fun _ => rfl) []
    obtain ⟨token, rest, htokens, hne⟩ := (hplain item List.mem_cons_self).exists_cons
    rw [List.map_cons, htokens, List.intercalate_cons_cons_left] at hitems ⊢
    rw [List.cons_append, foldlM_firstItem hne, ← List.cons_append, List.foldlM_append, hitems,
      List.append_nil]
    rfl

/-- A member of an object as it is kept while the object is open. -/
def openMember (member : String × Json) : Option String × Json := (some member.1, member.2)

theorem close_openMembers (members : List (String × Json)) (name : Option String) :
    close (.object (members.reverse.map openMember) name) = .object members := by
  have hnames : (members.map openMember).mapM (fun member => member.1.map (·, member.2)) =
      some members := by
    induction members with
    | nil => rfl
    | cons member members ih => simp [openMember, ih]
  rw [close, ← List.map_reverse, List.reverse_reverse, hnames]

/-- The tokens of an object put its members into a new container and close it. -/
theorem foldlM_object {containers : List Container} {members : List (String × Json)}
    (hmember : ∀ member ∈ members, ∀ taken,
      member.2.tokens.foldlM step? ⟨.object taken (some member.1) :: containers, .value⟩ =
        some ⟨.object (openMember member :: taken) none :: containers, .separator⟩) :
    (Json.object members).tokens.foldlM step? ⟨containers, .value⟩ =
      some (finish (.object (members.reverse.map openMember) none) containers) := by
  rw [tokens, memberTokens_eq_map, List.cons_append, List.foldlM_cons]
  cases members with
  | nil => rfl
  | cons member members =>
    let before : List (String × Json) → Progress := fun taken =>
      ⟨.object (taken.map openMember) none :: containers, .name⟩
    let after : List (String × Json) → Progress := fun taken =>
      ⟨.object (taken.map openMember) none :: containers, .separator⟩
    have hmembers : ([.comma].intercalate ((member :: members).map fun member =>
          .text (some member.1) :: .colon :: member.2.tokens)).foldlM step? (before []) =
        some (after ((member :: members).reverse ++ [])) :=
      foldlM_intercalate (by simp) (fun member h taken => hmember member h _) (fun _ => rfl) []
    -- the first name is taken like any name
    have hfirst : ∀ name rest, (Token.text name :: rest).foldlM step?
        ⟨.object [] none :: containers, .firstName⟩ =
        (Token.text name :: rest).foldlM step? (before []) := fun _ _ => rfl
    rw [List.map_cons, List.intercalate_cons_cons_left] at hmembers ⊢
    show (Token.text (some member.1) :: _ ++ [Token.closeObject]).foldlM step?
      ⟨.object [] none :: containers, .firstName⟩ = _
    rw [List.cons_append, hfirst, ← List.cons_append, List.foldlM_append, hmembers, List.append_nil]
    rfl

/-- The tokens of a value are put together to the value. -/
theorem Plain.foldlM_step {depth : Nat} {json : Json} (h : json.Plain depth)
    {containers : List Container} (hdepth : containers.length + depth ≤ maxDepth) :
    json.tokens.foldlM step? ⟨containers, .value⟩ = some (deliver containers json) := by
  induction h generalizing containers with
  | null => rfl
  | bool value => rfl
  | string value => rfl
  | @array depth items hplain ih =>
    have hroom : containers.length < maxDepth := by omega
    rw [foldlM_array hplain fun item hitem taken => ih item hitem (by simp; omega), finish,
      if_pos hroom, close, List.reverse_reverse]
  | @object depth members _ ih =>
    have hroom : containers.length < maxDepth := by omega
    rw [foldlM_object fun member hmember taken => ih member hmember (by simp; omega), finish,
      if_pos hroom, close_openMembers]

/-- The text of a value without numbers is read as this value. -/
theorem parse?_render {depth : Nat} {json : Json} (h : json.Plain depth)
    (hdepth : depth ≤ maxDepth) : parse? json.render = some json := by
  have htokens : tokens? json.render.toList = some json.tokens := by
    have hlexes := h.lexes [] endsWord_nil
    simpa [tokens?, tokensFrom] using hlexes
  have hread : json.tokens.foldlM step? ⟨[], .value⟩ = some (deliver [] json) :=
    h.foldlM_step (by simpa using hdepth)
  rw [parse?, htokens, Option.bind_some, ofTokens?, hread]
  rfl

end Json

end QueryTyping
