import Mathlib.Data.List.Basic

namespace CapyPdf

namespace Syntax

def isWhite (c : Char) : Bool :=
  c = '\x00' || c = '\t' || c = '\n' || c = '\x0c' || c = '\r' || c = ' '

def isDelim (c : Char) : Bool :=
  ['(', ')', '<', '>', '[', ']', '\x7b', '\x7d', '/', '%'].contains c

def isRegular (c : Char) : Bool :=
  !isWhite c && !isDelim c

def skipWsAux : (inComment : Bool) → List Char → List Char
  | _, [] => []
  | true, c :: cs => skipWsAux (c != '\n' && c != '\r') cs
  | false, c :: cs =>
    if isWhite c then skipWsAux false cs else if c = '%' then skipWsAux true cs else c :: cs

def skipWs (cs : List Char) : List Char :=
  skipWsAux false cs

def isNumber (tok : List Char) : Bool :=
  let t := match tok with
    | '+' :: t => t
    | '-' :: t => t
    | t => t
  let a := t.takeWhile Char.isDigit
  match t.dropWhile Char.isDigit with
  | [] => !a.isEmpty
  | '.' :: b => b.all Char.isDigit && !(a.isEmpty && b.isEmpty)
  | _ => false

def isUInt (tok : List Char) : Bool :=
  !tok.isEmpty && tok.all Char.isDigit

def refTail (cs : List Char) : Option (List Char) :=
  let cs := skipWs cs
  if isUInt (cs.takeWhile isRegular) then
    match skipWs (cs.dropWhile isRegular) with
    | 'R' :: rest => if rest.head?.any isRegular then none else some rest
    | _ => none
  else none

def regularObj (cs : List Char) : Option (List Char) :=
  let tok := cs.takeWhile isRegular
  let rest := cs.dropWhile isRegular
  if isUInt tok then some ((refTail rest).getD rest)
  else if isNumber tok || tok = "true".data || tok = "false".data || tok = "null".data then
    some rest
  else none

def stringBody : (d : Nat) → List Char → Option (List Char)
  | _, [] => none
  | d, '\\' :: _ :: cs => stringBody d cs
  | d, '(' :: cs => stringBody (d + 1) cs
  | 0, ')' :: cs => some cs
  | d + 1, ')' :: cs => stringBody d cs
  | d, _ :: cs => stringBody d cs

def isHex (c : Char) : Bool :=
  c.isDigit || ('a' ≤ c && c ≤ 'f') || ('A' ≤ c && c ≤ 'F')

def hexBody : List Char → Option (List Char)
  | [] => none
  | c :: cs => if c = '>' then some cs else if isHex c || isWhite c then hexBody cs else none

inductive Goal where
  | obj
  | dict
  | array
  deriving DecidableEq, Repr

def parse : (fuel : Nat) → Goal → List Char → Option (List Char)
  | 0, _, _ => none
  | n + 1, .obj, cs =>
    match skipWs cs with
    | '<' :: '<' :: cs => parse n .dict cs
    | '<' :: cs => hexBody cs
    | '[' :: cs => parse n .array cs
    | '(' :: cs => stringBody 0 cs
    | '/' :: cs => some (cs.dropWhile isRegular)
    | cs => regularObj cs
  | n + 1, .dict, cs =>
    match skipWs cs with
    | '>' :: '>' :: cs => some cs
    | '/' :: cs => (parse n .obj (cs.dropWhile isRegular)).bind (parse n .dict)
    | _ => none
  | n + 1, .array, cs =>
    match skipWs cs with
    | ']' :: cs => some cs
    | cs => (parse n .obj cs).bind (parse n .array)

section Steps

variable {n : Nat} {cs r : List Char}

theorem parse_obj_of_dict (h : skipWs cs = '<' :: '<' :: r) :
    parse (n + 1) .obj cs = parse n .dict r := by
  rw [parse.eq_2, h]
  rfl

theorem parse_dict_of_key (h : skipWs cs = '/' :: r) :
    parse (n + 1) .dict cs = (parse n .obj (r.dropWhile isRegular)).bind (parse n .dict) := by
  rw [parse.eq_3, h]
  rfl

end Steps

def parseContainer (fuel : Nat) (cs : List Char) : Option (List Char) :=
  match skipWs cs with
  | '<' :: '<' :: cs => parse fuel .dict cs
  | '[' :: cs => parse fuel .array cs
  | _ => none

theorem parseContainer_of_dict {n : Nat} {cs r : List Char} (h : skipWs cs = '<' :: '<' :: r) :
    parseContainer n cs = parse n .dict r := by
  rw [parseContainer, h]
  rfl

def ParsesAsOne (s : String) : Prop :=
  ∃ fuel rest, parseContainer fuel s.data = some rest ∧ skipWs rest = []

example : ParsesAsOne "<<\n  /Type /Catalog\n  /Pages 2 0 R\n  /Lang (en-\\(US\\))\n>>\n" :=
  ⟨60, _, rfl, rfl⟩

example : ParsesAsOne "[ /ICCBased 5 0 R <0a1B> -1.5 true ]\n" := ⟨40, _, rfl, rfl⟩

section Suffix

theorem append_cons_eq_of_not_mem {α : Type} {x : α} : ∀ {l₁ l₂ r₁ r₂ : List α}, x ∉ l₁ → x ∉ l₂ →
    l₁ ++ x :: r₁ = l₂ ++ x :: r₂ → x :: r₁ = x :: r₂
  | [], [], _, _, _, _, h => h
  | [], _ :: _, _, _, _, h₂, h => absurd (List.cons.inj h).1 fun e => h₂ (e ▸ .head _)
  | _ :: _, [], _, _, h₁, _, h => absurd (List.cons.inj h).1.symm fun e => h₁ (e ▸ .head _)
  | _ :: _, _ :: _, _, _, h₁, h₂, h =>
    append_cons_eq_of_not_mem (fun m => h₁ (.tail _ m)) (fun m => h₂ (.tail _ m)) (List.cons.inj h).2

variable {cs rest : List Char}

theorem skipWsAux_suffix : ∀ (b : Bool) (cs : List Char), skipWsAux b cs <:+ cs
  | b, [] => by simp only [skipWsAux.eq_1, List.suffix_refl]
  | true, _ :: cs => (skipWsAux_suffix _ cs).trans (List.suffix_cons _ _)
  | false, c :: cs => by
    unfold skipWsAux
    split
    · exact (skipWsAux_suffix _ cs).trans (List.suffix_cons _ _)
    split
    · exact (skipWsAux_suffix _ cs).trans (List.suffix_cons _ _)
    · exact List.suffix_refl _

theorem skipWs_suffix (cs : List Char) : skipWs cs <:+ cs :=
  skipWsAux_suffix false cs

theorem dropWhile_suffix (p : Char → Bool) (cs : List Char) : cs.dropWhile p <:+ cs :=
  ⟨cs.takeWhile p, List.takeWhile_append_dropWhile _ _⟩

theorem stringBody_suffix {d : Nat} {cs : List Char} (h : stringBody d cs = some rest) :
    rest <:+ cs := by
  induction d, cs using stringBody.induct with
  | case1 => rw [stringBody.eq_1] at h; cases h
  | case2 d c cs ih =>
    rw [stringBody.eq_2] at h
    exact ((ih h).trans (List.suffix_cons _ _)).trans (List.suffix_cons _ _)
  | case3 d cs ih =>
    rw [stringBody.eq_3] at h
    exact (ih h).trans (List.suffix_cons _ _)
  | case4 cs =>
    rw [stringBody.eq_4] at h
    cases h
    exact List.suffix_cons _ _
  | case5 d cs ih =>
    rw [stringBody.eq_5] at h
    exact (ih h).trans (List.suffix_cons _ _)
  | case6 d c cs h₁ h₂ h₃ h₄ ih =>
    rw [stringBody.eq_6 _ _ _ h₁ h₂ h₃ h₄] at h
    exact (ih h).trans (List.suffix_cons _ _)

theorem hexBody_suffix : ∀ {cs : List Char}, hexBody cs = some rest → rest <:+ cs
  | [], h => by cases h
  | c :: cs, h => by
    unfold hexBody at h
    split at h
    · cases h
      exact List.suffix_cons _ _
    split at h
    · exact (hexBody_suffix h).trans (List.suffix_cons _ _)
    · cases h

theorem refTail_suffix (h : refTail cs = some rest) : rest <:+ cs := by
  unfold refTail at h
  dsimp only at h
  split at h
  · split at h
    · split at h
      · cases h
      · cases h
        rename_i heq _
        exact ((List.suffix_cons _ _).trans (heq ▸ skipWs_suffix _)).trans
          ((dropWhile_suffix _ _).trans (skipWs_suffix _))
    · cases h
  · cases h

theorem regularObj_suffix (h : regularObj cs = some rest) : rest <:+ cs := by
  unfold regularObj at h
  dsimp only at h
  split at h
  · cases h
    cases ht : refTail (cs.dropWhile isRegular) with
    | none => exact dropWhile_suffix _ _
    | some r => exact (refTail_suffix ht).trans (dropWhile_suffix _ _)
  split at h
  · cases h
    exact dropWhile_suffix _ _
  · cases h

theorem parse_suffix : ∀ {n : Nat} {g : Goal} {cs rest : List Char}, parse n g cs = some rest →
    rest <:+ cs
  | 0, _, _, _, h => by cases h
  | n + 1, .obj, cs, _, h => by
    unfold parse at h
    refine List.IsSuffix.trans ?_ (skipWs_suffix cs)
    split at h
    next _ heq =>
      rw [heq]
      exact (parse_suffix h).trans ((List.suffix_cons _ _).trans (List.suffix_cons _ _))
    next _ _ heq => rw [heq]; exact (hexBody_suffix h).trans (List.suffix_cons _ _)
    next _ heq => rw [heq]; exact (parse_suffix h).trans (List.suffix_cons _ _)
    next _ heq => rw [heq]; exact (stringBody_suffix h).trans (List.suffix_cons _ _)
    next _ heq =>
      rw [heq]
      cases h
      exact (dropWhile_suffix _ _).trans (List.suffix_cons _ _)
    next => exact regularObj_suffix h
  | n + 1, .dict, cs, _, h => by
    unfold parse at h
    refine List.IsSuffix.trans ?_ (skipWs_suffix cs)
    split at h
    next _ heq =>
      rw [heq]
      cases h
      exact (List.suffix_cons _ _).trans (List.suffix_cons _ _)
    next _ heq =>
      rw [heq]
      obtain ⟨r, h₁, h₂⟩ := Option.bind_eq_some.mp h
      exact ((parse_suffix h₂).trans (parse_suffix h₁)).trans
        ((dropWhile_suffix _ _).trans (List.suffix_cons _ _))
    next => cases h
  | n + 1, .array, cs, _, h => by
    unfold parse at h
    refine List.IsSuffix.trans ?_ (skipWs_suffix cs)
    split at h
    next _ heq =>
      rw [heq]
      cases h
      exact List.suffix_cons _ _
    next =>
      obtain ⟨r, h₁, h₂⟩ := Option.bind_eq_some.mp h
      exact (parse_suffix h₂).trans (parse_suffix h₁)

theorem parse_dict_close : ∀ {n : Nat} {cs rest : List Char}, parse n .dict cs = some rest →
    ('>' :: '>' :: rest) <:+ cs
  | 0, _, _, h => by cases h
  | n + 1, cs, _, h => by
    unfold parse at h
    split at h
    next _ heq =>
      cases h
      exact heq ▸ skipWs_suffix cs
    next _ heq =>
      obtain ⟨r, h₁, h₂⟩ := Option.bind_eq_some.mp h
      exact (parse_dict_close h₂).trans ((parse_suffix h₁).trans
        ((dropWhile_suffix _ _).trans ((List.suffix_cons _ _).trans (heq ▸ skipWs_suffix cs))))
    next => cases h

theorem parse_array_close : ∀ {n : Nat} {cs rest : List Char}, parse n .array cs = some rest →
    (']' :: rest) <:+ cs
  | 0, _, _, h => by cases h
  | n + 1, cs, _, h => by
    unfold parse at h
    split at h
    next _ heq =>
      cases h
      exact heq ▸ skipWs_suffix cs
    next =>
      obtain ⟨r, h₁, h₂⟩ := Option.bind_eq_some.mp h
      exact (parse_array_close h₂).trans ((parse_suffix h₁).trans (skipWs_suffix cs))

theorem parseContainer_close {n : Nat} (h : parseContainer n cs = some rest) :
    ('>' :: '>' :: rest) <:+ cs ∨ (']' :: rest) <:+ cs := by
  unfold parseContainer at h
  split at h
  next _ heq => exact .inl ((parse_dict_close h).trans
      ((List.suffix_cons _ _).trans ((List.suffix_cons _ _).trans (heq ▸ skipWs_suffix cs))))
  next _ heq =>
    exact .inr ((parse_array_close h).trans ((List.suffix_cons _ _).trans (heq ▸ skipWs_suffix cs)))
  next => cases h

end Suffix

section Text

def NoCloser (s : String) : Prop :=
  '>' ∉ s.data ∧ ']' ∉ s.data

instance (s : String) : Decidable (NoCloser s) :=
  inferInstanceAs (Decidable ('>' ∉ s.data ∧ ']' ∉ s.data))

@[simp] theorem noCloser_append {s t : String} : NoCloser (s ++ t) ↔ NoCloser s ∧ NoCloser t := by
  simp only [NoCloser, String.data_append, List.mem_append, not_or]
  tauto

theorem noCloser_of_isDigit {s : String} (h : ∀ c ∈ s.data, c = '-' ∨ c.isDigit) : NoCloser s :=
  ⟨fun hc => by simpa using h _ hc, fun hc => by simpa using h _ hc⟩

theorem isDigit_of_mem_toDigitsCore : ∀ {fuel n : Nat} {ds : List Char}, (∀ c ∈ ds, c.isDigit) →
    ∀ c ∈ Nat.toDigitsCore 10 fuel n ds, c.isDigit
  | 0, _, _, h => h
  | fuel + 1, n, ds, h => by
    have hd : ∀ d < 10, (Nat.digitChar d).isDigit := by decide
    have hcons : ∀ c ∈ Nat.digitChar (n % 10) :: ds, c.isDigit :=
      List.forall_mem_cons.mpr ⟨hd _ (Nat.mod_lt n (by decide)), h⟩
    show ∀ c ∈ (if n / 10 = 0 then Nat.digitChar (n % 10) :: ds
      else Nat.toDigitsCore 10 fuel (n / 10) (Nat.digitChar (n % 10) :: ds)), c.isDigit
    split
    · exact hcons
    · exact isDigit_of_mem_toDigitsCore hcons

@[simp] theorem noCloser_toString_nat (n : Nat) : NoCloser (toString n) :=
  noCloser_of_isDigit fun c hc => .inr (isDigit_of_mem_toDigitsCore (by simp) c hc)

@[simp] theorem noCloser_toString_int (i : Int) : NoCloser (toString i) := by
  cases i with
  | ofNat n => exact noCloser_toString_nat n
  | negSucc n =>
    exact noCloser_append.mpr ⟨by decide, noCloser_toString_nat (n + 1)⟩

theorem not_parsesAsOne_of_trailing {p q : String} (hp : NoCloser p) (hq : NoCloser q)
    (htail : skipWs ('\n' :: q.data) ≠ []) : ¬ParsesAsOne (p ++ ">>\n" ++ q) := by
  rintro ⟨n, rest, h, hws⟩
  have hs : (p ++ ">>\n" ++ q).data = p.data ++ '>' :: '>' :: '\n' :: q.data := by simp
  rw [hs] at h
  rcases parseContainer_close h with ⟨pre, hpre⟩ | ⟨pre, hpre⟩
  · have hcount := congrArg (List.count '>') hpre
    simp [List.count_append, List.count_cons, List.count_eq_zero_of_not_mem hp.1,
      List.count_eq_zero_of_not_mem hq.1] at hcount
    have hpre0 : '>' ∉ pre := List.count_eq_zero.mp (by omega)
    have hrest := append_cons_eq_of_not_mem hpre0 hp.1 hpre
    simp only [List.cons.injEq, true_and] at hrest
    rw [hrest] at hws
    exact htail hws
  · have hmem : ']' ∈ p.data ++ '>' :: '>' :: '\n' :: q.data := hpre ▸ by simp
    simp only [List.mem_append, List.mem_cons] at hmem
    rcases hmem with h | h | h | h | h
    exacts [hp.2 h, absurd h (by decide), absurd h (by decide), absurd h (by decide), hq.2 h]

end Text

end Syntax

end CapyPdf
