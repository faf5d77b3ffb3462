import Warabi.Json.Text

/-! `json::parse` reads back what `dump()` writes: for every document whose objects keep their
keys in order and whose numbers are integers as the parser stores them, `parse (dump j) = .ok j`.
The readers are proved against the writers with an arbitrary rest of input after the value,
which may not continue a number. -/
namespace Warabi

namespace Json

/-! ## Strings -/

theorem hex4_control (n : Nat) (small : n < 32) :
    hex4 '0' '0' (hexDigit (n / 16)) (hexDigit (n % 16)) = some n := by
  have zero : hexValue '0' = some 0 := by decide
  simp only [hex4,hexValue_hexDigit (n / 16) (by omega),hexValue_hexDigit (n % 16) (by omega),zero]
  simp
  omega

theorem simpleEscape_shortEscapes : ∀ p ∈ shortEscapes, simpleEscape p.2 = some p.1 := by
  decide

theorem readStringStep_escapeChar (c : Char) (tail : List Char) :
    readStringStep (escapeChar c ++ tail) = .char c tail := by
  cases short : shortEscapes.lookup c with
  | some e =>
    obtain ⟨front,back,split,-⟩ := List.lookup_eq_some_iff.mp short
    have escape := simpleEscape_shortEscapes (c,e) (by simp [split])
    simp only [escapeChar,short,List.cons_append,List.nil_append,readStringStep,escape]
    rfl
  | none =>
    have other := List.lookup_eq_none_iff.mp short
    have notQuote : c ≠ '"' := by simpa using other ('"','"') (by decide)
    have notBackslash : c ≠ '\\' := by simpa using other ('\\','\\') (by decide)
    by_cases control : c.toNat < 32
    · simp only [escapeChar,short,control,if_true,List.cons_append,List.nil_append,readStringStep,
        show simpleEscape 'u' = none by decide,readCodePoint,hex4_control _ control]
      simp [show ¬(56320 ≤ c.toNat ∧ c.toNat < 57344) by omega,
        show ¬(55296 ≤ c.toNat ∧ c.toNat < 56320) by omega,Char.ofNat_toNat]
    · simp [escapeChar,short,control,readStringStep,notQuote,notBackslash]

theorem escapeChar_length (c : Char) : 0 < (escapeChar c).length := by
  unfold escapeChar
  split
  · simp
  · split <;> simp

theorem readString_escaped (s rest acc : List Char) (fuel : Nat) (enough : s.length < fuel) :
    readString fuel (s.flatMap escapeChar ++ '"' :: rest) acc = some (acc ++ s,rest) := by
  induction s generalizing fuel acc with
  | nil =>
    obtain ⟨fuel,rfl⟩ : ∃ f, fuel = f + 1 := ⟨fuel - 1,by simp at enough; omega⟩
    simp [readString,readStringStep]
  | cons c s ih =>
    obtain ⟨fuel,rfl⟩ : ∃ f, fuel = f + 1 := ⟨fuel - 1,by simp at enough; omega⟩
    simp only [readString,List.flatMap_cons,List.append_assoc,readStringStep_escapeChar]
    rw [ih (acc ++ [c]) fuel (by simp at enough; omega)]
    simp

theorem flatMap_escapeChar_length (s : List Char) : s.length ≤ (s.flatMap escapeChar).length := by
  induction s with
  | nil => simp
  | cons c s ih =>
    have := escapeChar_length c
    simp only [List.flatMap_cons,List.length_append,List.length_cons]
    omega

theorem readString_quote (s : String) (rest : List Char) :
    readString (s.data.flatMap escapeChar ++ '"' :: rest).length
      (s.data.flatMap escapeChar ++ '"' :: rest) [] = some (s.data,rest) := by
  have := flatMap_escapeChar_length s.data
  rw [readString_escaped _ _ _ _ (by rw [List.length_append,List.length_cons]; omega)]
  rfl

/-! ## Numbers -/

/-- What may follow a number: nothing that would continue it. -/
def Delimited : List Char → Prop
  | [] => True
  | c :: _ => c.isDigit = false ∧ c ≠ '.' ∧ c ≠ 'e' ∧ c ≠ 'E'

theorem digitChar_facts : ∀ d, d < 10 →
    (digitChar d).isDigit = true ∧ (digitChar d).toNat - 48 = d ∧ (digitChar d = '0' ↔ d = 0) ∧
      (digitChar d ≠ '-')
  | 0, _ | 1, _ | 2, _ | 3, _ | 4, _ | 5, _ | 6, _ | 7, _ | 8, _ | 9, _ => by decide
  | _ + 10, h => absurd h (by omega)

theorem span_digits (ds : List Nat) (small : ∀ d ∈ ds, d < 10) (rest : List Char) (delimited : Delimited rest) :
    (ds.map digitChar ++ rest).takeWhile Char.isDigit = ds.map digitChar ∧
      (ds.map digitChar ++ rest).dropWhile Char.isDigit = rest := by
  induction ds with
  | nil =>
    cases rest with
    | nil => exact ⟨rfl,rfl⟩
    | cons c rest => simp [List.takeWhile_cons,List.dropWhile_cons,delimited.1]
  | cons d ds ih =>
    have digit := (digitChar_facts d (small d (List.mem_cons_self _ _))).1
    obtain ⟨taken,dropped⟩ := ih fun e member => small e (List.mem_cons_of_mem _ member)
    simp [List.takeWhile_cons,List.dropWhile_cons,digit,taken,dropped]

theorem digitsValue_digits (ds : List Nat) (small : ∀ d ∈ ds, d < 10) :
    digitsValue (ds.map digitChar) = ds.foldl (fun a d => a * 10 + d) 0 := by
  suffices ∀ acc, (ds.map digitChar).foldl (fun acc c => acc * 10 + (c.toNat - 48)) acc =
      ds.foldl (fun a d => a * 10 + d) acc from this 0
  induction ds with
  | nil => exact fun _ => rfl
  | cons d ds ih =>
    intro acc
    simp only [List.map_cons,List.foldl_cons,(digitChar_facts d (small d (List.mem_cons_self _ _))).2.1]
    exact ih (fun e member => small e (List.mem_cons_of_mem _ member)) _

theorem foldl_reverse_digits (ds : List Nat) :
    ds.reverse.foldl (fun a d => a * 10 + d) 0 = Nat.ofDigits 10 ds := by
  rw [List.foldl_reverse]
  induction ds with
  | nil => rfl
  | cons d ds ih => simp only [List.foldr_cons,ih,Nat.ofDigits_cons]; ring

theorem decimal_digits (n : Nat) : ∃ ds, decimal n = ds.map digitChar ∧ (∀ d ∈ ds, d < 10) ∧
    ds.foldl (fun a d => a * 10 + d) 0 = n ∧ ∃ d ds', ds = d :: ds' ∧ (d = 0 → ds' = []) := by
  unfold decimal
  split_ifs with zero
  · exact ⟨[0],rfl,by simp,by simp [zero],0,[],rfl,fun _ => rfl⟩
  · have small : ∀ d ∈ (Nat.digits 10 n).reverse, d < 10 := fun d member =>
      Nat.digits_lt_base (by norm_num) (List.mem_reverse.mp member)
    have leading := Nat.getLast_digit_ne_zero 10 zero
    obtain ⟨first,others,split⟩ : ∃ first others, (Nat.digits 10 n).reverse = first :: others := by
      cases h : (Nat.digits 10 n).reverse with
      | nil => simp [List.reverse_eq_nil_iff,Nat.digits_eq_nil_iff_eq_zero] at h; omega
      | cons first others => exact ⟨first,others,rfl⟩
    have firstNonzero : first ≠ 0 := by
      rw [List.getLast_eq_head_reverse] at leading
      simpa [split] using leading
    refine ⟨_,rfl,small,by rw [foldl_reverse_digits,Nat.ofDigits_digits],first,others,split,
      fun zero => absurd zero firstNonzero⟩

theorem digitsValue_decimal (n : Nat) : digitsValue (decimal n) = n := by
  obtain ⟨ds,written,small,value,-⟩ := decimal_digits n
  rw [written,digitsValue_digits ds small,value]

theorem scanIntegral_decimal (n : Nat) (rest : List Char) (delimited : Delimited rest) :
    scanIntegral (decimal n ++ rest) = some (decimal n,rest) := by
  obtain ⟨ds,written,small,-,d,ds',rfl,single⟩ := decimal_digits n
  have facts := digitChar_facts d (small d (List.mem_cons_self _ _))
  obtain ⟨taken,dropped⟩ := span_digits ds' (fun e member => small e (List.mem_cons_of_mem _ member)) rest delimited
  rw [written]
  by_cases zero : d = 0
  · obtain rfl := single zero
    subst zero
    rfl
  · simp only [List.map_cons,List.cons_append,scanIntegral,show digitChar d ≠ '0' from
      fun e => zero (facts.2.2.1.mp e),if_false,facts.1,if_true,taken,dropped]

theorem scanFraction_delimited (rest : List Char) (delimited : Delimited rest) :
    scanFraction rest = some ([],rest) := by
  cases rest with
  | nil => rfl
  | cons c rest => simp [scanFraction,delimited.2.1]

theorem scanExponent_delimited (rest : List Char) (delimited : Delimited rest) :
    scanExponent rest = some (none,rest) := by
  cases rest with
  | nil => rfl
  | cons c rest => simp [scanExponent,delimited.2.2.1,delimited.2.2.2]

theorem decimal_head (n : Nat) : ∃ d cs, decimal n = digitChar d :: cs ∧ d < 10 := by
  obtain ⟨ds,written,small,-,d,ds',rfl,-⟩ := decimal_digits n
  exact ⟨d,ds'.map digitChar,written,small d (List.mem_cons_self _ _)⟩

theorem scanNumber_decimal (n : Nat) (rest : List Char) (delimited : Delimited rest) :
    scanNumber (decimal n ++ rest) = some (⟨false,decimal n,[],none⟩,rest) := by
  obtain ⟨d,cs,head,small⟩ := decimal_head n
  have integral := scanIntegral_decimal n rest delimited
  rw [head] at integral ⊢
  simp only [List.cons_append] at integral ⊢
  simp only [scanNumber,(digitChar_facts d small).2.2.2,if_false,integral,Option.bind_eq_bind,Option.some_bind,
    scanFraction_delimited _ delimited,scanExponent_delimited _ delimited]
  rfl

theorem scanNumber_negative (n : Nat) (rest : List Char) (delimited : Delimited rest) :
    scanNumber ('-' :: decimal n ++ rest) = some (⟨true,decimal n,[],none⟩,rest) := by
  simp only [List.cons_append,scanNumber,if_true,scanIntegral_decimal n rest delimited,Option.bind_eq_bind,
    Option.some_bind,scanFraction_delimited _ delimited,scanExponent_delimited _ delimited]
  rfl

theorem ofNat_toNat_uint64 (n : UInt64) : UInt64.ofNat n.toNat = n :=
  UInt64.toNat.inj (UInt64.toNat_ofNat_of_lt n.val.isLt)

theorem ofInt_toInt_bitVec (n : BitVec 64) : BitVec.ofInt 64 n.toInt = n := by
  apply BitVec.eq_of_toInt_eq
  rw [BitVec.toInt_ofInt,BitVec.toInt_eq_toNat_bmod,Int.bmod_bmod]

theorem toInt_ge_bitVec (n : BitVec 64) : -(2 ^ 63 : Int) ≤ n.toInt := by
  have := n.isLt
  rw [BitVec.toInt_eq_toNat_cond]
  split <;> omega

/-- The text of an unsigned number, or of a negative `int64_t`, reads back as that number. -/
theorem readNumber_dumpNumber (n : Number) (canonical : n.Canonical) (rest : List Char)
    (delimited : Delimited rest) : readNumber (dumpNumber n ++ rest) = .ok (number n,rest) := by
  cases n with
  | unsigned n =>
    have small : n.toNat < 2 ^ 64 := n.val.isLt
    simp only [dumpNumber,readNumber,scanNumber_decimal _ _ delimited,lexed,bind,Except.bind,
      NumberToken.value,digitsValue_decimal,small]
    simp [ofNat_toNat_uint64]
  | integer n =>
    have negative : n.toInt < 0 := canonical
    have bounded := toInt_ge_bitVec n
    have written : decimalInt n.toInt = '-' :: decimal n.toInt.natAbs := if_pos negative
    have stored : BitVec.ofInt 64 (-(n.toInt.natAbs : Int)) = n := by
      rw [show -(n.toInt.natAbs : Int) = n.toInt by omega,ofInt_toInt_bitVec]
    simp only [dumpNumber,written,readNumber,scanNumber_negative _ _ delimited,lexed,bind,Except.bind,
      NumberToken.value,digitsValue_decimal,if_true,show n.toInt.natAbs ≤ 2 ^ 63 by omega,and_self,stored]
  | float d => exact absurd canonical id

/-! ## Documents -/

theorem skipWhitespace_cons {c : Char} (cs : List Char) (visible : isWhitespace c = false) :
    skipWhitespace (c :: cs) = c :: cs := by
  simp [skipWhitespace,visible]

theorem insertMember_last (key : String) (v : Json) (acc : List (String × Json))
    (below : ∀ m ∈ acc, m.1 < key) : insertMember key v acc = acc ++ [(key,v)] := by
  induction acc with
  | nil => rfl
  | cons m acc ih =>
    obtain ⟨k,w⟩ := m
    have less : k < key := below (k,w) (by simp)
    have notLess : ¬key.data < k.data := fun more => lt_asymm less (String.lt_iff_toList_lt.mpr more)
    simp only [insertMember,notLess,if_false,ne_of_gt less,List.cons_append,
      ih (fun m member => below m (by simp [member]))]

/-- A number's text starts with a minus or a digit, which no other value starts with. -/
theorem readValue_number (fuel : Nat) (c : Char) (cs : List Char) (start : c = '-' ∨ c.isDigit) :
    readValue (fuel + 1) (c :: cs) = readNumber (c :: cs) := by
  rcases start with minus | digit
  · subst minus; rfl
  · have other : ∀ d : Char, d.isDigit = false → c ≠ d := fun d letter same => by
      subst same; simp [letter] at digit
    have visible : isWhitespace c = false := by
      simp only [isWhitespace,Bool.or_eq_false_iff,decide_eq_false_iff_not]
      exact ⟨⟨⟨other ' ' rfl,other '\t' rfl⟩,other '\n' rfl⟩,other '\r' rfl⟩
    simp only [readValue,skipWhitespace_cons _ visible,other 'n' rfl,other 't' rfl,other 'f' rfl,
      other '"' rfl,other '[' rfl,other '{' rfl,if_false]

theorem dumpNumber_head (n : Number) (canonical : n.Canonical) :
    ∃ c cs, dumpNumber n = c :: cs ∧ (c = '-' ∨ c.isDigit) := by
  cases n with
  | unsigned n =>
    obtain ⟨d,cs,head,small⟩ := decimal_head n.toNat
    exact ⟨digitChar d,cs,head,.inr (digitChar_facts d small).1⟩
  | integer n => exact ⟨'-',_,if_pos canonical,.inl rfl⟩
  | float d => exact absurd canonical id

theorem dumpChars_head (j : Json) (canonical : Canonical j) : ∃ c cs, dumpChars j = c :: cs ∧
    isWhitespace c = false ∧ c ≠ ']' ∧ c ≠ '}' ∧ c ≠ '\uFEFF' := by
  match j, canonical with
  | null, _ | boolean true, _ | boolean false, _ | string _, _ | array [], _ | array (_ :: _), _ | object [], _
  | object (_ :: _), _ => exact ⟨_,_,rfl,by decide,by decide,by decide,by decide⟩
  | number n, canonical =>
    obtain ⟨c,cs,head,start⟩ := dumpNumber_head n canonical
    refine ⟨c,cs,head,?_⟩
    rcases start with minus | digit
    · subst minus; decide
    · have other : ∀ d : Char, d.isDigit = false → c ≠ d := fun d letter same => by
        subst same; simp [letter] at digit
      simp only [isWhitespace,Bool.or_eq_false_iff,decide_eq_false_iff_not]
      exact ⟨⟨⟨⟨other ' ' rfl,other '\t' rfl⟩,other '\n' rfl⟩,other '\r' rfl⟩,other ']' rfl,
        other '}' rfl,other '\uFEFF' rfl⟩

theorem delimited_punctuation {c : Char} (rest : List Char) (mark : c = ',' ∨ c = ']' ∨ c = '}') :
    Delimited (c :: rest) := by
  rcases mark with rfl | rfl | rfl <;> exact ⟨rfl,by decide,by decide,by decide⟩

theorem delimited_dumpElements (es : List Json) (rest : List Char) :
    Delimited (dumpElements es ++ rest) := by
  cases es <;> exact delimited_punctuation _ (by simp)

theorem delimited_dumpMembers (ms : List (String × Json)) (rest : List Char) :
    Delimited (dumpMembers ms ++ rest) := by
  cases ms with
  | nil => exact delimited_punctuation _ (by simp)
  | cons m ms => exact delimited_punctuation _ (by simp)

theorem readValue_null (fuel : Nat) (rest : List Char) :
    readValue (fuel + 1) (dumpChars null ++ rest) = .ok (null,rest) := by
  show readValue (fuel + 1) ('n' :: 'u' :: 'l' :: 'l' :: rest) = _
  simp [readValue,skipWhitespace,isWhitespace,readLiteral,lexed]

theorem readValue_boolean (fuel : Nat) (b : Bool) (rest : List Char) :
    readValue (fuel + 1) (dumpChars (boolean b) ++ rest) = .ok (boolean b,rest) := by
  cases b
  · show readValue (fuel + 1) ('f' :: 'a' :: 'l' :: 's' :: 'e' :: rest) = _
    simp [readValue,skipWhitespace,isWhitespace,readLiteral,lexed]
  · show readValue (fuel + 1) ('t' :: 'r' :: 'u' :: 'e' :: rest) = _
    simp [readValue,skipWhitespace,isWhitespace,readLiteral,lexed]

theorem readValue_string (fuel : Nat) (s : String) (rest : List Char) :
    readValue (fuel + 1) (dumpChars (string s) ++ rest) = .ok (string s,rest) := by
  simp only [dumpChars,quote,List.cons_append,List.append_assoc,List.singleton_append]
  simp only [readValue,skipWhitespace_cons _ (show isWhitespace '"' = false by decide),readString_quote]
  rfl

theorem readValue_dumpNumber (fuel : Nat) (n : Number) (canonical : n.Canonical) (rest : List Char)
    (delimited : Delimited rest) : readValue (fuel + 1) (dumpChars (number n) ++ rest) = .ok (number n,rest) := by
  obtain ⟨c,cs,head,start⟩ := dumpNumber_head n canonical
  have read := readNumber_dumpNumber n canonical rest delimited
  simp only [dumpChars,head,List.cons_append] at read ⊢
  rw [readValue_number _ _ _ start,read]

theorem dumpChars_length (j : Json) (canonical : Canonical j) : 0 < (dumpChars j).length := by
  obtain ⟨c,cs,head,-⟩ := dumpChars_head j canonical
  simp [head]

mutual
theorem readValue_dumpChars : (j : Json) → Canonical j → ∀ (fuel : Nat) (rest : List Char),
    (dumpChars j).length ≤ fuel → Delimited rest → readValue fuel (dumpChars j ++ rest) = .ok (j,rest)
  | j, canonical, 0, _, enough, _ => absurd enough (by have := dumpChars_length j canonical; omega)
  | null, _, fuel + 1, rest, _, _ => readValue_null fuel rest
  | boolean b, _, fuel + 1, rest, _, _ => readValue_boolean fuel b rest
  | number n, canonical, fuel + 1, rest, _, delimited => readValue_dumpNumber fuel n canonical rest delimited
  | string s, _, fuel + 1, rest, _, _ => readValue_string fuel s rest
  | array [], _, fuel + 1, rest, _, _ => by
    show readValue (fuel + 1) ('[' :: ']' :: rest) = _
    simp [readValue,skipWhitespace,isWhitespace]
  | array (e :: es), canonical, fuel + 1, rest, enough, _ => by
    obtain ⟨c,cs,head,visible,notClose,-,-⟩ := dumpChars_head e canonical.1
    have elements := readElements_dumpElements (e :: es) (List.cons_ne_nil _ _) canonical fuel [] rest
      (by simp [dumpChars,dumpElements] at enough ⊢; omega)
    simp only [dumpElements,List.tail_cons,head,List.cons_append] at elements
    simp only [dumpChars,head,List.cons_append,List.append_assoc]
    simp only [readValue,skipWhitespace_cons _ (show isWhitespace '[' = false by decide),
      skipWhitespace_cons _ visible,notClose,if_false]
    simpa using elements
  | object [], _, fuel + 1, rest, _, _ => by
    show readValue (fuel + 1) ('{' :: '}' :: rest) = _
    simp [readValue,skipWhitespace,isWhitespace]
  | object ((k,v) :: ms), canonical, fuel + 1, rest, enough, _ => by
    have members := readMembers_dumpMembers ((k,v) :: ms) (List.cons_ne_nil _ _) canonical.2
      canonical.1 fuel [] rest (by simp) (by simp [dumpChars,dumpMembers] at enough ⊢; omega)
    simp only [dumpMembers,List.tail_cons,quote,List.cons_append,List.append_assoc] at members
    simp only [dumpChars,quote,List.cons_append,List.append_assoc]
    simp only [readValue,skipWhitespace_cons _ (show isWhitespace '{' = false by decide),
      skipWhitespace_cons _ (show isWhitespace '"' = false by decide)]
    simpa using members
theorem readElements_dumpElements : (l : List Json) → l ≠ [] → CanonicalElements l →
    ∀ (fuel : Nat) (acc : List Json) (rest : List Char), (dumpElements l).tail.length ≤ fuel →
    readElements fuel acc ((dumpElements l).tail ++ rest) = .ok (array (acc ++ l),rest)
  | [], nonempty, _, _, _, _, _ => absurd rfl nonempty
  | e :: _, _, canonical, 0, _, _, enough => absurd enough (by
    simp only [dumpElements,List.cons_append,List.tail_cons,List.length_append]
    have := dumpChars_length e canonical.1
    omega)
  | e :: es, _, canonical, fuel + 1, acc, rest, enough => by
    have first := readValue_dumpChars e canonical.1 fuel (dumpElements es ++ rest)
      (by cases es <;> simp [dumpElements] at enough ⊢ <;> omega) (delimited_dumpElements es rest)
    simp only [dumpElements,List.tail_cons,List.append_assoc]
    cases es with
    | nil =>
      simp only [dumpElements,List.singleton_append] at first ⊢
      simp [readElements,first,skipWhitespace,isWhitespace]
    | cons e' es' =>
      have others := readElements_dumpElements (e' :: es') (List.cons_ne_nil _ _) canonical.2 fuel
        (acc ++ [e]) rest (by simp [dumpElements] at enough ⊢; omega)
      simp only [dumpElements,List.tail_cons,List.append_assoc,List.cons_append] at first others ⊢
      simp [readElements,first,skipWhitespace,isWhitespace,others]
theorem readMembers_dumpMembers : (l : List (String × Json)) → l ≠ [] → CanonicalMembers l →
    (l.map Prod.fst).Sorted (· < ·) →
    ∀ (fuel : Nat) (acc : List (String × Json)) (rest : List Char), (∀ a ∈ acc, ∀ b ∈ l, a.1 < b.1) →
    (dumpMembers l).tail.length ≤ fuel →
    readMembers fuel acc ((dumpMembers l).tail ++ rest) = .ok (object (acc ++ l),rest)
  | [], nonempty, _, _, _, _, _, _, _ => absurd rfl nonempty
  | _ :: _, _, _, _, 0, _, _, _, enough => absurd enough (by simp [dumpMembers,quote])
  | (k,v) :: ms, _, canonical, sorted, fuel + 1, acc, rest, below, enough => by
    have ordered := List.sorted_cons.mp (show (k :: ms.map Prod.fst).Sorted (· < ·) from sorted)
    have value := readValue_dumpChars v canonical.1 fuel (dumpMembers ms ++ rest)
      (by simp [dumpMembers,quote] at enough; omega) (delimited_dumpMembers ms rest)
    have eta : (⟨k.data⟩ : String) = k := rfl
    have last : insertMember k v acc = acc ++ [(k,v)] :=
      insertMember_last k v acc (fun m member => below m member (k,v) (by simp))
    simp only [dumpMembers,quote,List.cons_append,List.tail_cons,List.append_assoc,
      List.singleton_append,List.nil_append]
    simp only [readMembers,skipWhitespace_cons _ (show isWhitespace '"' = false by decide),
      readString_quote,if_pos,skipWhitespace_cons _ (show isWhitespace ':' = false by decide),value,
      eta,last]
    cases ms with
    | nil => simp [dumpMembers,skipWhitespace,isWhitespace]
    | cons m ms =>
      obtain ⟨k',v'⟩ := m
      have others := readMembers_dumpMembers ((k',v') :: ms) (List.cons_ne_nil _ _) canonical.2
        ordered.2 fuel (acc ++ [(k,v)]) rest
        (by
          intro a member b inside
          rcases List.mem_append.mp member with old | new
          · exact below a old b (List.mem_cons_of_mem _ inside)
          · simp only [List.mem_singleton] at new
            subst new
            exact ordered.1 b.1 (List.mem_map_of_mem _ inside))
        (by simp [dumpMembers,quote] at enough ⊢; omega)
      simp only [dumpMembers,quote,List.cons_append,List.tail_cons,List.append_assoc,
        List.singleton_append,List.nil_append] at others
      simp [dumpMembers,quote,skipWhitespace,isWhitespace,others]
end

theorem parse_dump (j : Json) (canonical : Canonical j) : parse (dump j) = .ok j := by
  obtain ⟨c,cs,head,-,-,-,noMark⟩ := dumpChars_head j canonical
  have read := readValue_dumpChars j canonical ((dumpChars j).length + 1) [] (by omega) trivial
  rw [List.append_nil,head] at read
  simp only [parse,dump,head,skipByteOrderMark,noMark,if_false,read]
  rfl

end Json

end Warabi
