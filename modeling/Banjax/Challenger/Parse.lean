import Banjax.Challenger.Defs
import Banjax.Config.Defs

/-!
# Reading a challenge

`parse_single_challenge` of `challenger.cpp`, with `make_mask_for_range` of `util.cpp`.
The challenges of the configuration are read once, when the challenger is built, and
the one of `dynamic_challenger_config` is read again for every command.

A node that is not there is `none`.  Looking up a field of it gives `none` again, and
only a conversion throws.  `parseSingleChallenge_ok_iff` says when nothing is thrown:
`WellFormed` lists the fields and what each of them must hold.
-/

namespace Banjax

open Lib

/-- What `parse_single_challenge` throws. -/
inductive ChallengeError where
  /-- `YAML::InvalidNode`: the field is missing. -/
  | invalidNode (field : Bytes)
  /-- `YAML::TypedBadConversion`. -/
  | badConversion (field : Bytes)
  /-- `YAML::BadSubscript`: a field of a scalar. -/
  | badSubscript
  /-- `YAML::Exception`, "Invalid type for magic word". -/
  | magicWordType
  /-- `std::invalid_argument` of `std::stoi`. -/
  | invalidArgument
  /-- `std::out_of_range` of `std::stoi`. -/
  | outOfRange
  /-- `InvalidConfException`. -/
  | invalidConf
deriving DecidableEq, Repr

/-! ## Ranges -/

/-- The digits of `std::stoi`, after the whitespace and the sign. -/
def stoiDigits (sign : Int) (s : Bytes) : Except ChallengeError Int :=
  if !isDigit (s.headD 0) then .error .invalidArgument
  else
    let n := sign * (readDigits 10 0 s).1
    if -2 ^ 31 ≤ n ∧ n < 2 ^ 31 then .ok n else .error .outOfRange

/-- `std::stoi`. -/
def stoi (s : Bytes) : Except ChallengeError Int :=
  match s.dropWhile isSpace with
  | 45 :: s => stoiDigits (-1) s
  | 43 :: s => stoiDigits 1 s
  | s => stoiDigits 1 s

/-- `make_mask_for_range`.  The number is converted to `unsigned`, and a shift by 32
is one by 0. -/
def makeMaskForRange (hayIp : Bytes) : Except ChallengeError SubnetRange :=
  match find? (bytes "/") hayIp with
  | none => .ok (inetAddr hayIp, 0xffffffff)
  | some slashPos => do
      let n ← stoi (hayIp.drop (slashPos + 1))
      let keepBits := UInt32.ofInt n
      if 32 < keepBits then .error .invalidConf
      else
        return (inetAddr (hayIp.take slashPos),
          (0xffffffff >>> (32 - keepBits)) <<< (32 - keepBits))

/-- A range without a slash, or with a number of bits after it. -/
def IsRange (hayIp : Bytes) : Prop :=
  ∀ slashPos, find? (bytes "/") hayIp = some slashPos →
    ∃ n : Int, stoi (hayIp.drop (slashPos + 1)) = .ok n ∧ 0 ≤ n ∧ n ≤ 32

/-! ## Fields -/

/-- The surroundings of `parse_single_challenge`: the directory of the pages, the files in
it, and `YAML::Node::as<unsigned int>`. -/
structure ChallengeReader where
  banjaxDir : Bytes
  /-- The content of a file, nothing when it cannot be read. -/
  readFile : Bytes → Bytes
  asUnsigned : Node → Option UInt32

namespace ChallengeReader

variable (R : ChallengeReader)

/-- `ch[field]`. -/
def lookup (ch : Option Node) (field : Bytes) : Except ChallengeError (Option Node) :=
  match ch with
  | none => .ok none
  | some (.scalar _) => .error .badSubscript
  | some node => .ok (node.find? field)

/-- `as<std::string>`. -/
def text (field : Bytes) : Option Node → Except ChallengeError Bytes
  | none => .error (.invalidNode field)
  | some node =>
      match node.asString with
      | some s => .ok s
      | none => .error (.badConversion field)

/-- `as<unsigned int>`. -/
def unsigned (field : Bytes) : Option Node → Except ChallengeError UInt32
  | none => .error (.invalidNode field)
  | some node =>
      match R.asUnsigned node with
      | some n => .ok n
      | none => .error (.badConversion field)

/-- `as<vector<string>>`. -/
def texts (field : Bytes) : Option Node → Except ChallengeError (List Bytes)
  | none => .error (.invalidNode field)
  | some (.sequence elements) => elements.mapM fun element => text field (some element)
  | some _ => .error (.badConversion field)

/-- A field that may be left out. -/
def optional {α : Type} (ch : Option Node) (field : Bytes) (default : α)
    (read : Option Node → Except ChallengeError α) : Except ChallengeError α := do
  match ← lookup ch field with
  | none => return default
  | some node => read (some node)

/-! ## Magic words -/

/-- `std::set::insert`, on the elements in the order in which they came. -/
def insertNew {α : Type} [DecidableEq α] (set : List α) (a : α) : List α :=
  if a ∈ set then set else set ++ [a]

/-- One entry of `magic_word`: a pair of a type and a word, or a word. -/
def magicWord : Node → Except ChallengeError MagicWord
  | .sequence elements => do
      let type ← text (bytes "magic_word") elements[0]?
      let word ← text (bytes "magic_word") elements[1]?
      if type = bytes "regexp" then return .regexp word
      else if type = bytes "substr" then return .substr word
      else .error .magicWordType
  | entry => do return .substr (← text (bytes "magic_word") (some entry))

/-- `magic_word`: a list of entries, or a single word. -/
def magicWords : Option Node → Except ChallengeError (List MagicWord)
  | some (.sequence entries) =>
      entries.foldlM (fun storage entry => do return insertNew storage (← magicWord entry)) []
  | node => do return [.substr (← text (bytes "magic_word") node)]

/-- `white_listed_ips`. -/
def whiteListedIps (node : Option Node) : Except ChallengeError (List SubnetRange) := do
  let ips ← texts (bytes "white_listed_ips") node
  ips.foldlM (fun whiteList ip => do return insertNew whiteList (← makeMaskForRange ip)) []

/-! ## `parse_single_challenge` -/

/-- `challenge_type[...]`, which makes a new entry of the first type for an unknown name. -/
def challengeTypeOf (name : Bytes) : ChallengeType :=
  if name = bytes "captcha" then .captcha
  else if name = bytes "auth" then .auth
  else .shaInverse

/-- `CHALLENGE_FILE_LIST`. -/
def defaultPageFilename : ChallengeType → Bytes
  | .shaInverse => bytes "solver.html"
  | .captcha => bytes "captcha.html"
  | .auth => bytes "auth.html"

/-- The page of a challenge. -/
def challengeStream (type : ChallengeType) (challengeFile : Bytes) : Bytes :=
  let file := if challengeFile = [] then defaultPageFilename type else challengeFile
  R.readFile (R.banjaxDir ++ bytes "/" ++ file)

/-- `parse_single_challenge`. -/
def parseSingleChallenge (ch : Option Node) : Except ChallengeError HostChallengeSpec := do
  let name ← text (bytes "name") (← lookup ch (bytes "name"))
  let requestedChallengeType ← text (bytes "challenge_type") (← lookup ch (bytes "challenge_type"))
  let challengeType := challengeTypeOf requestedChallengeType
  let validityPeriod ← R.unsigned (bytes "validity_period") (← lookup ch (bytes "validity_period"))
  let threshold ← optional ch (bytes "no_of_fails_to_ban") 0
    (R.unsigned (bytes "no_of_fails_to_ban"))
  let challengeFile ← optional ch (bytes "challenge") [] (text (bytes "challenge"))
  let passwordHash ← optional ch (bytes "password_hash") [] (text (bytes "password_hash"))
  let words ← optional ch (bytes "magic_word") [] magicWords
  let exceptions ← optional ch (bytes "magic_word_exceptions") []
    (texts (bytes "magic_word_exceptions"))
  let whiteList ← optional ch (bytes "white_listed_ips") [] whiteListedIps
  return {
    name := name
    challengeType := challengeType
    challengeStream := R.challengeStream challengeType challengeFile
    failToleranceThreshold := threshold
    challengeValidityPeriod := validityPeriod.toUInt64
    passwordHash := passwordHash
    magicWords := words
    magicWordExceptions := exceptions
    whiteListedIps := whiteList }

/-! ## When a challenge can be read -/

/-- A text. -/
def IsText (node : Node) : Prop := ∃ s, node = .scalar s

/-- A list of texts. -/
def IsTexts (node : Node) (texts : List Bytes) : Prop := node = .sequence (texts.map .scalar)

/-- A word, or a pair of one of the two types and a word. -/
def IsMagicWord (entry : Node) : Prop :=
  IsText entry ∨ ∃ type word rest, entry = .sequence (.scalar type :: .scalar word :: rest) ∧
    (type = bytes "regexp" ∨ type = bytes "substr")

/-- The field of a node. -/
def field (ch : Option Node) (name : String) : Option Node := ch.bind (Node.find? (bytes name))

/-- The fields of a challenge hold what they must. -/
structure WellFormed (ch : Option Node) : Prop where
  name : ∃ node, field ch "name" = some node ∧ IsText node
  challengeType : ∃ node, field ch "challenge_type" = some node ∧ IsText node
  validityPeriod : ∃ node, field ch "validity_period" = some node ∧ (R.asUnsigned node).isSome
  noOfFailsToBan : ∀ node, field ch "no_of_fails_to_ban" = some node →
    (R.asUnsigned node).isSome
  challenge : ∀ node, field ch "challenge" = some node → IsText node
  passwordHash : ∀ node, field ch "password_hash" = some node → IsText node
  magicWord : ∀ node, field ch "magic_word" = some node →
    IsText node ∨ ∃ entries, node = .sequence entries ∧ ∀ entry ∈ entries, IsMagicWord entry
  magicWordExceptions : ∀ node, field ch "magic_word_exceptions" = some node →
    ∃ words, IsTexts node words
  whiteListedIps : ∀ node, field ch "white_listed_ips" = some node →
    ∃ ips, IsTexts node ips ∧ ∀ ip ∈ ips, IsRange ip

variable {R}

theorem succeeds_text (field : Bytes) (node : Node) :
    Succeeds (text field (some node)) ↔ IsText node := by
  cases node <;> simp [text, Node.asString, IsText]

theorem succeeds_unsigned (field : Bytes) (node : Node) :
    Succeeds (R.unsigned field (some node)) ↔ (R.asUnsigned node).isSome := by
  unfold unsigned
  dsimp only
  cases R.asUnsigned node <;> simp

theorem text_eq_ok {field : Bytes} {node : Node} {s : Bytes} :
    text field (some node) = .ok s ↔ node = .scalar s := by
  cases node <;> simp [text, Node.asString]

theorem mapM_text_eq_ok {field : Bytes} {elements : List Node} {ss : List Bytes} :
    elements.mapM (fun element => text field (some element)) = .ok ss ↔
      elements = ss.map .scalar := by
  induction elements generalizing ss with
  | nil =>
      rw [List.mapM_nil]
      cases ss with
      | nil => simp [pure, Except.pure]
      | cons s ss => simp [pure, Except.pure]
  | cons element elements ih =>
      rw [List.mapM_cons, bind_eq_ok]
      constructor
      · rintro ⟨s, hs, h⟩
        obtain ⟨ss', hss, h⟩ := bind_eq_ok.mp h
        cases h
        rw [text_eq_ok.mp hs, ih.mp hss]
        rfl
      · intro h
        cases ss with
        | nil => cases h
        | cons s ss =>
            cases h
            exact ⟨s, text_eq_ok.mpr rfl, bind_eq_ok.mpr ⟨ss, ih.mpr rfl, rfl⟩⟩

theorem texts_eq_ok {field : Bytes} {node : Node} {ss : List Bytes} :
    texts field (some node) = .ok ss ↔ IsTexts node ss := by
  cases node with
  | sequence elements =>
      rw [texts, mapM_text_eq_ok, IsTexts]
      simp
  | null => simp [texts, IsTexts]
  | scalar s => simp [texts, IsTexts]
  | map entries => simp [texts, IsTexts]

theorem stoi_range {s : Bytes} {n : Int} (h : stoi s = .ok n) : -2 ^ 31 ≤ n ∧ n < 2 ^ 31 := by
  have hdigits : ∀ {sign : Int} {s : Bytes}, stoiDigits sign s = .ok n →
      -2 ^ 31 ≤ n ∧ n < 2 ^ 31 := by
    intro sign s h
    unfold stoiDigits at h
    dsimp only at h
    split at h
    · cases h
    · split at h
      · next hrange =>
        cases h
        exact hrange
      · cases h
  unfold stoi at h
  split at h
  · exact hdigits h
  · exact hdigits h
  · exact hdigits h

/-- The number of bits is one of those that fit. -/
theorem ofInt_le_iff {n : Int} (h : -2 ^ 31 ≤ n ∧ n < 2 ^ 31) :
    ¬ 32 < UInt32.ofInt n ↔ 0 ≤ n ∧ n ≤ 32 := by
  have hval : (UInt32.ofInt n).toNat = (n % 2 ^ 32).toNat := by
    have hlt := Int.emod_lt_of_pos n (show (0 : Int) < 4294967296 by decide)
    simpa [UInt32.ofInt] using hlt
  rw [UInt32.not_lt, UInt32.le_iff_toNat_le, hval]
  simp
  omega

theorem succeeds_makeMaskForRange (hayIp : Bytes) :
    Succeeds (makeMaskForRange hayIp) ↔ IsRange hayIp := by
  unfold makeMaskForRange IsRange
  cases hslash : find? (bytes "/") hayIp with
  | none => simp
  | some slashPos =>
      dsimp only
      cases hn : stoi (hayIp.drop (slashPos + 1)) with
      | error e =>
          simp [hn]
      | ok n =>
          have hle := ofInt_le_iff (stoi_range hn)
          rw [ok_bind]
          by_cases hbits : 32 < UInt32.ofInt n
          · simp [hbits, hn] at hle ⊢
            exact hle
          · simp [hbits, hn] at hle ⊢
            exact hle

theorem succeeds_magicWord_pair (a b : Node) (rest : List Node) :
    Succeeds (magicWord (.sequence (a :: b :: rest))) ↔
      IsMagicWord (.sequence (a :: b :: rest)) := by
  constructor
  · rintro ⟨word, h⟩
    rw [magicWord] at h
    obtain ⟨type, htype, h⟩ := bind_eq_ok.mp h
    obtain ⟨w, hw, h⟩ := bind_eq_ok.mp h
    cases text_eq_ok.mp htype
    cases text_eq_ok.mp hw
    refine .inr ⟨type, w, rest, rfl, ?_⟩
    split at h
    · next hregexp => exact .inl hregexp
    · split at h
      · next hsubstr => exact .inr hsubstr
      · cases h
  · rintro (⟨s, hs⟩ | ⟨type, word, rest', heq, htype⟩)
    · cases hs
    · cases heq
      rcases htype with rfl | rfl
      · exact ⟨.regexp word, rfl⟩
      · exact ⟨.substr word, rfl⟩

theorem succeeds_magicWord (entry : Node) : Succeeds (magicWord entry) ↔ IsMagicWord entry := by
  cases entry with
  | null => simp [magicWord, text, Node.asString, IsMagicWord, IsText]
  | scalar s => simp [magicWord, text, Node.asString, IsMagicWord, IsText, pure, Except.pure]
  | map entries => simp [magicWord, text, Node.asString, IsMagicWord, IsText]
  | sequence elements =>
      match elements with
      | [] => simp [magicWord, text, IsMagicWord, IsText]
      | [a] =>
          cases a <;> simp [magicWord, text, Node.asString, IsMagicWord, IsText]
      | a :: b :: rest => exact succeeds_magicWord_pair a b rest

theorem succeeds_magicWords (node : Node) :
    Succeeds (magicWords (some node)) ↔
      IsText node ∨ ∃ entries, node = .sequence entries ∧ ∀ entry ∈ entries, IsMagicWord entry := by
  cases node with
  | sequence entries =>
      rw [magicWords, succeeds_foldlM]
      simp [succeeds_magicWord, IsText]
  | null => simp [magicWords, text, Node.asString, IsText]
  | scalar s => simp [magicWords, text, Node.asString, IsText, pure, Except.pure]
  | map entries => simp [magicWords, text, Node.asString, IsText]

theorem succeeds_texts (field : Bytes) (node : Node) :
    Succeeds (texts field (some node)) ↔ ∃ words, IsTexts node words := by
  simp only [Succeeds, texts_eq_ok]

theorem succeeds_whiteListedIps (node : Node) :
    Succeeds (whiteListedIps (some node)) ↔
      ∃ ips, IsTexts node ips ∧ ∀ ip ∈ ips, IsRange ip := by
  unfold whiteListedIps
  cases h : texts (bytes "white_listed_ips") (some node) with
  | error e =>
      have hnot : ∀ ips, ¬ IsTexts node ips := by
        intro ips hips
        rw [texts_eq_ok.mpr hips] at h
        cases h
      simp [hnot]
  | ok ips =>
      have hips := texts_eq_ok.mp h
      have huniq : ∀ ips', IsTexts node ips' → ips' = ips := by
        intro ips' hips'
        rw [texts_eq_ok.mpr hips'] at h
        exact Except.ok.inj h
      rw [ok_bind, succeeds_foldlM]
      simp only [succeeds_makeMaskForRange]
      constructor
      · intro hall
        exact ⟨ips, hips, hall⟩
      · rintro ⟨ips', hips', hall⟩
        exact huniq ips' hips' ▸ hall

/-! ## The challenge as a whole -/

theorem lookup_eq {ch : Option Node} (h : ∀ s, ch ≠ some (.scalar s)) (name : String) :
    lookup ch (bytes name) = .ok (field ch name) := by
  cases ch with
  | none => rfl
  | some node =>
      cases node with
      | scalar s => exact absurd rfl (h s)
      | null => rfl
      | sequence elements => rfl
      | map entries => rfl

/-- What a lookup finds, if it does not throw. -/
theorem lookup_eq_ok {ch node : Option Node} {name : String}
    (h : lookup ch (bytes name) = .ok node) : field ch name = node := by
  have hne : ∀ s, ch ≠ some (.scalar s) := by
    rintro s rfl
    cases h
  rw [lookup_eq hne] at h
  exact Except.ok.inj h

/-- A field that must be there. -/
theorem succeeds_required {α : Type} {read : Option Node → Except ChallengeError α}
    {Q : Node → Prop} (hnone : ¬ Succeeds (read none))
    (hread : ∀ node, Succeeds (read (some node)) ↔ Q node) (field : Option Node) :
    Succeeds (read field) ↔ ∃ node, field = some node ∧ Q node := by
  cases field with
  | none => simp [hnone]
  | some node => simp [hread]

/-- A field that may be left out. -/
theorem succeeds_optional {α : Type} {ch : Option Node}
    {read : Option Node → Except ChallengeError α} {Q : Node → Prop}
    (h : ∀ s, ch ≠ some (.scalar s)) (name : String) (default : α)
    (hread : ∀ node, Succeeds (read (some node)) ↔ Q node) :
    Succeeds (optional ch (bytes name) default read) ↔
      ∀ node, field ch name = some node → Q node := by
  rw [optional, lookup_eq h, ok_bind]
  cases field ch name with
  | none => simp
  | some node => simp [hread]

/-- A challenge can be read exactly when its fields hold what they must. -/
theorem parseSingleChallenge_ok_iff (ch : Option Node) :
    Succeeds (R.parseSingleChallenge ch) ↔ R.WellFormed ch := by
  by_cases hscalar : ∃ s, ch = some (.scalar s)
  · obtain ⟨s, rfl⟩ := hscalar
    constructor
    · intro h
      exact absurd h (succeeds_error ChallengeError.badSubscript)
    · intro h
      obtain ⟨node, hname, _⟩ := h.name
      cases hname
  have h : ∀ s, ch ≠ some (.scalar s) := fun s hs => hscalar ⟨s, hs⟩
  have hname := succeeds_required (by simp [text]) (succeeds_text (bytes "name")) (field ch "name")
  have htype := succeeds_required (by simp [text]) (succeeds_text (bytes "challenge_type"))
    (field ch "challenge_type")
  have hperiod := succeeds_required (by simp [unsigned])
    (succeeds_unsigned (R := R) (bytes "validity_period")) (field ch "validity_period")
  have hfails := succeeds_optional h "no_of_fails_to_ban" 0
    (succeeds_unsigned (R := R) (bytes "no_of_fails_to_ban"))
  have hfile := succeeds_optional h "challenge" [] (succeeds_text (bytes "challenge"))
  have hpassword := succeeds_optional h "password_hash" []
    (succeeds_text (bytes "password_hash"))
  have hwords := succeeds_optional h "magic_word" [] succeeds_magicWords
  have hexceptions := succeeds_optional h "magic_word_exceptions" []
    (succeeds_texts (bytes "magic_word_exceptions"))
  have hips := succeeds_optional h "white_listed_ips" [] succeeds_whiteListedIps
  unfold parseSingleChallenge
  simp only [lookup_eq h, ok_bind]
  constructor
  · rintro ⟨spec, hrun⟩
    obtain ⟨_, h₁, hrun⟩ := bind_eq_ok.mp hrun
    obtain ⟨_, h₂, hrun⟩ := bind_eq_ok.mp hrun
    obtain ⟨_, h₃, hrun⟩ := bind_eq_ok.mp hrun
    obtain ⟨_, h₄, hrun⟩ := bind_eq_ok.mp hrun
    obtain ⟨_, h₅, hrun⟩ := bind_eq_ok.mp hrun
    obtain ⟨_, h₆, hrun⟩ := bind_eq_ok.mp hrun
    obtain ⟨_, h₇, hrun⟩ := bind_eq_ok.mp hrun
    obtain ⟨_, h₈, hrun⟩ := bind_eq_ok.mp hrun
    obtain ⟨_, h₉, hrun⟩ := bind_eq_ok.mp hrun
    exact ⟨hname.mp ⟨_, h₁⟩, htype.mp ⟨_, h₂⟩, hperiod.mp ⟨_, h₃⟩, hfails.mp ⟨_, h₄⟩,
      hfile.mp ⟨_, h₅⟩, hpassword.mp ⟨_, h₆⟩, hwords.mp ⟨_, h₇⟩, hexceptions.mp ⟨_, h₈⟩,
      hips.mp ⟨_, h₉⟩⟩
  · intro hw
    obtain ⟨_, h₁⟩ := hname.mpr hw.name
    obtain ⟨_, h₂⟩ := htype.mpr hw.challengeType
    obtain ⟨_, h₃⟩ := hperiod.mpr hw.validityPeriod
    obtain ⟨_, h₄⟩ := hfails.mpr hw.noOfFailsToBan
    obtain ⟨_, h₅⟩ := hfile.mpr hw.challenge
    obtain ⟨_, h₆⟩ := hpassword.mpr hw.passwordHash
    obtain ⟨_, h₇⟩ := hwords.mpr hw.magicWord
    obtain ⟨_, h₈⟩ := hexceptions.mpr hw.magicWordExceptions
    obtain ⟨_, h₉⟩ := hips.mpr hw.whiteListedIps
    rw [h₁, ok_bind, h₂, ok_bind, h₃, ok_bind, h₄, ok_bind, h₅, ok_bind, h₆, ok_bind, h₇, ok_bind,
      h₈, ok_bind, h₉, ok_bind]
    exact ⟨_, rfl⟩

end ChallengeReader

end Banjax
