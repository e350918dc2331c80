import Flowchart.Config
import Flowchart.Proofs.Numerals
import Flowchart.Proofs.Words

/-!
# Settings

Each field of a configuration is read from a variable of its own, up to the blanks around the value.
Nothing but a bad number is refused, and the timeout is looked at before the port.
-/

namespace Flowchart

namespace Text

/-! ## Pieces up to blanks -/

/-- What stands behind a text belongs to its last piece, as long as nothing in it separates. -/
theorem exists_splitBy_append {p : Char → Bool} {b : Text} (hb : ∀ c ∈ b, p c = false) (s : Text) :
    ∃ pieces last, splitBy p s = pieces ++ [last] ∧ splitBy p (s ++ b) = pieces ++ [last ++ b] := by
  induction s with
  | nil => exact ⟨[], [], rfl, by simpa [splitBy] using splitBy_append_of_none (s := []) hb⟩
  | cons c s ih =>
      obtain ⟨pieces, last, hs, hsb⟩ := ih
      rw [List.cons_append, splitBy, splitBy, hs, hsb]
      split
      · exact ⟨[] :: pieces, last, rfl, rfl⟩
      · cases pieces with
        | nil => exact ⟨[], c :: last, rfl, rfl⟩
        | cons piece pieces => exact ⟨(c :: piece) :: pieces, last, rfl, rfl⟩

theorem map_trim_splitBy_append {p : Char → Bool} {b : Text} (hb : IsBlanks b)
    (hp : ∀ c, isBlank c = true → p c = false) (s : Text) :
    (splitBy p (s ++ b)).map trim = (splitBy p s).map trim := by
  obtain ⟨pieces, last, hs, hsb⟩ := exists_splitBy_append (fun c hc => hp c (hb c hc)) s
  have htrim : trim (last ++ b) = trim last := by
    simpa using trim_append_isBlanks .nil hb last
  simp [hs, hsb, htrim]

theorem map_trim_append_splitBy {p : Char → Bool} {b : Text} (hb : IsBlanks b)
    (hp : ∀ c, isBlank c = true → p c = false) (s : Text) :
    (splitBy p (b ++ s)).map trim = (splitBy p s).map trim := by
  obtain ⟨piece, pieces, hs⟩ := List.exists_cons_of_ne_nil (splitBy_ne_nil p s)
  have htrim : trim (b ++ piece) = trim piece := by
    simpa using trim_append_isBlanks hb .nil piece
  rw [splitBy_append_of_none fun c hc => hp c (hb c hc), hs]
  simp [htrim]

/-- The blanks around a text are blanks around its first and its last piece. -/
theorem map_trim_splitBy_trim {p : Char → Bool} (hp : ∀ c, isBlank c = true → p c = false)
    (s : Text) : (splitBy p (trim s)).map trim = (splitBy p s).map trim := by
  obtain ⟨b, b', hb, hb', hs⟩ := exists_trim s
  conv_rhs => rw [hs]
  rw [map_trim_splitBy_append hb' hp, map_trim_append_splitBy hb hp]

theorem lowercaseChar_ne_nil (c : Char) : lowercaseChar c ≠ [] := by
  unfold lowercaseChar
  split
  · simp
  split
  · simp
  split <;> simp

theorem lowercase_eq_nil_iff {s : Text} : lowercase s = [] ↔ s = [] := by
  cases s with
  | nil => simp [lowercase, lowercaseFrom]
  | cons c s =>
      rw [lowercase, lowercaseFrom]
      split <;> simp [lowercaseChar_ne_nil]

end Text

namespace Config

variable {lookup lookup' : Text → Option Text} {name : Text}

/-! ## What a variable says -/

/-- The variable has no value, or only blanks. -/
def IsUnset (lookup : Text → Option Text) (name : Text) : Prop :=
  ∀ value, lookup name = some value → value.IsBlanks

/-- The blanks around a value do not count, and a blank value is as good as none. -/
def Agree (lookup lookup' : Text → Option Text) (name : Text) : Prop :=
  (IsUnset lookup name ∧ IsUnset lookup' name) ∨ ∃ value value',
    lookup name = some value ∧ lookup' name = some value' ∧ Text.trim value = Text.trim value'

/-- A numeral for a number from the first bound on and below the second one. -/
def IsNumber (least bound : Nat) (text : Text) (n : Nat) : Prop :=
  text.IsNumeral n ∧ least ≤ n ∧ n < bound

/-- The variable is unset or gives a number within the bounds. -/
def Allows (lookup : Text → Option Text) (name : Text) (least bound : Nat) : Prop :=
  IsUnset lookup name ∨
    ∃ value n, lookup name = some value ∧ IsNumber least bound (Text.trim value) n

/-- A field has its standard value where its variable is unset, and else a value that the trimmed
text of the variable stands for. -/
def Says (lookup : Text → Option Text) (name : Text) (standard : α) (stands : Text → α → Prop)
    (a : α) : Prop :=
  (IsUnset lookup name ∧ a = standard) ∨
    ∃ value, lookup name = some value ∧ ¬ value.IsBlanks ∧ stands (Text.trim value) a

theorem setting?_eq_none_iff : setting? lookup name = none ↔ IsUnset lookup name := by
  rw [setting?, IsUnset]
  cases lookup name with
  | none => simp
  | some value => simp [Text.isBlanks_iff_trim_eq_nil]

theorem setting?_eq_some_iff {text : Text} : setting? lookup name = some text ↔
    ∃ value, lookup name = some value ∧ ¬ value.IsBlanks ∧ Text.trim value = text := by
  rw [setting?, Option.filter_eq_some_iff, Option.map_eq_some_iff, ← exists_and_right]
  refine exists_congr fun value => ?_
  rw [Text.isBlanks_iff_trim_eq_nil, and_assoc]
  refine and_congr_right fun _ => ?_
  constructor
  · rintro ⟨rfl, hne⟩
    exact ⟨by simpa using hne, rfl⟩
  · rintro ⟨hne, rfl⟩
    exact ⟨rfl, by simpa using hne⟩

theorem agree_iff : Agree lookup lookup' name ↔ setting? lookup name = setting? lookup' name := by
  constructor
  · rintro (⟨h, h'⟩ | ⟨value, value', h, h', htrim⟩)
    · rw [setting?_eq_none_iff.2 h, setting?_eq_none_iff.2 h']
    · rw [setting?, setting?, h, h', Option.map_some, Option.map_some, htrim]
  · intro h
    cases hsetting : setting? lookup name with
    | none =>
        exact .inl ⟨setting?_eq_none_iff.1 hsetting, setting?_eq_none_iff.1 (h ▸ hsetting)⟩
    | some text =>
        obtain ⟨value, hvalue, -, htrim⟩ := setting?_eq_some_iff.1 hsetting
        obtain ⟨value', hvalue', -, htrim'⟩ := setting?_eq_some_iff.1 (h ▸ hsetting)
        exact .inr ⟨value, value', hvalue, hvalue', htrim.trans htrim'.symm⟩

theorem says_iff {standard : α} {stands : Text → α → Prop} {a : α} :
    Says lookup name standard stands a ↔
      (setting? lookup name = none ∧ a = standard) ∨
        ∃ text, setting? lookup name = some text ∧ stands text a := by
  simp only [Says, setting?_eq_none_iff, setting?_eq_some_iff]
  grind

/-- What a variable stands for is what its setting is read as. -/
theorem says_eq_iff {standard : α} {read : Text → α} {a : α} :
    Says lookup name standard (fun text b => b = read text) a ↔
      a = ((setting? lookup name).map read).getD standard := by
  rw [says_iff]
  cases setting? lookup name <;> simp

theorem Says.eq_of_agree {standard : α} {stands : Text → α → Prop} {a a' : α}
    (hstands : ∀ text a a', stands text a → stands text a' → a = a')
    (h : Says lookup name standard stands a) (h' : Says lookup' name standard stands a')
    (hagree : Agree lookup lookup' name) : a = a' := by
  rw [says_iff, agree_iff.1 hagree] at h
  rw [says_iff] at h'
  rcases h with ⟨hnone, rfl⟩ | ⟨text, hsome, htext⟩
  · rcases h' with ⟨-, rfl⟩ | ⟨text', hsome', -⟩
    · rfl
    · cases hnone.symm.trans hsome'
  · rcases h' with ⟨hnone, -⟩ | ⟨text', hsome', htext'⟩
    · cases hnone.symm.trans hsome
    · cases hsome.symm.trans hsome'
      exact hstands text a a' htext htext'

/-! ## Numbers -/

/-- How the timeout and the port are read. -/
def readNumber (standard : Nat) (number? : Text → Option Nat) (invalid : Text → ConfigError) :
    Option Text → Except ConfigError Nat
  | none => .ok standard
  | some text => (number? text).elim (.error (invalid text)) .ok

theorem readTimeout_eq : readTimeout =
    readNumber ServiceSettings.standard.timeoutSeconds timeout? .invalidTimeout := by
  funext value
  cases value with
  | none => rfl
  | some text => simp only [readTimeout, readNumber]; cases timeout? text <;> rfl

theorem readPort_eq : readPort = readNumber standardPort port? .invalidPort := by
  funext value
  cases value with
  | none => rfl
  | some text => simp only [readPort, readNumber]; cases port? text <;> rfl

theorem timeout?_eq_some_iff {text : Text} {n : Nat} :
    timeout? text = some n ↔ IsNumber 1 (2 ^ 64) text n := by
  rw [timeout?, Option.filter_eq_some_iff, Text.numeral?_eq_some_iff, IsNumber, and_assoc,
    and_comm (a := n < _), decide_eq_true_iff]
  rfl

theorem port?_eq_some_iff {text : Text} {n : Nat} :
    port? text = some n ↔ IsNumber 0 (2 ^ 16) text n := by
  rw [port?, Text.numeral?_eq_some_iff, IsNumber]
  simp

theorem IsNumber.not_isBlanks {least bound n : Nat} {value : Text}
    (h : IsNumber least bound (Text.trim value) n) : ¬ value.IsBlanks := by
  obtain ⟨⟨digits, hdigits, hne, -⟩, -⟩ := h
  rw [Text.isBlanks_iff_trim_eq_nil]
  intro hnil
  rw [hnil] at hdigits
  rcases hdigits with rfl | hdigits
  · exact hne rfl
  · cases hdigits

theorem IsNumber.unique {least bound n n' : Nat} {text : Text} (h : IsNumber least bound text n)
    (h' : IsNumber least bound text n') : n = n' :=
  h.1.unique h'.1

section Number

variable {standard least bound : Nat} {number? : Text → Option Nat} {invalid : Text → ConfigError}

theorem allows_iff (standard : Nat) : Allows lookup name least bound ↔
    ∃ n, Says lookup name standard (IsNumber least bound) n := by
  constructor
  · rintro (h | ⟨value, n, hvalue, hn⟩)
    · exact ⟨standard, .inl ⟨h, rfl⟩⟩
    · exact ⟨n, .inr ⟨value, hvalue, hn.not_isBlanks, hn⟩⟩
  · rintro ⟨n, ⟨h, -⟩ | ⟨value, hvalue, -, hn⟩⟩
    · exact .inl h
    · exact .inr ⟨value, n, hvalue, hn⟩

theorem readNumber_eq_ok_iff
    (hnumber : ∀ text n, number? text = some n ↔ IsNumber least bound text n) {n : Nat} :
    readNumber standard number? invalid (setting? lookup name) = .ok n ↔
      Says lookup name standard (IsNumber least bound) n := by
  rw [says_iff]
  cases setting? lookup name with
  | none => simp [readNumber, eq_comm]
  | some text =>
      simp only [readNumber, reduceCtorEq, false_and, Option.some.injEq, false_or, exists_eq_left',
        ← hnumber]
      cases number? text <;> simp

theorem readNumber_eq_error_iff
    (hnumber : ∀ text n, number? text = some n ↔ IsNumber least bound text n) {e : ConfigError} :
    readNumber standard number? invalid (setting? lookup name) = .error e ↔
      ¬ Allows lookup name least bound ∧
        ∃ value, lookup name = some value ∧ e = invalid (Text.trim value) := by
  have hallows : Allows lookup name least bound ↔
      ∃ n, readNumber standard number? invalid (setting? lookup name) = .ok n := by
    simp only [readNumber_eq_ok_iff hnumber, ← allows_iff standard]
  rw [hallows]
  cases hsetting : setting? lookup name with
  | none => simp [readNumber]
  | some text =>
      obtain ⟨value, hvalue, -, rfl⟩ := setting?_eq_some_iff.1 hsetting
      cases hn : number? (Text.trim value) <;> simp [readNumber, hn, hvalue, eq_comm]

end Number

/-! ## The configuration -/

theorem readTimeout_eq_ok_iff {n : Nat} :
    readTimeout (setting? lookup timeoutVariable) = .ok n ↔ Says lookup timeoutVariable
      ServiceSettings.standard.timeoutSeconds (IsNumber 1 (2 ^ 64)) n := by
  rw [readTimeout_eq, readNumber_eq_ok_iff fun _ _ => timeout?_eq_some_iff]

theorem readPort_eq_ok_iff {n : Nat} :
    readPort (setting? lookup portVariable) = .ok n ↔
      Says lookup portVariable standardPort (IsNumber 0 (2 ^ 16)) n := by
  rw [readPort_eq, readNumber_eq_ok_iff fun _ _ => port?_eq_some_iff]

theorem readTimeout_eq_error_iff {e : ConfigError} :
    readTimeout (setting? lookup timeoutVariable) = .error e ↔
      ¬ Allows lookup timeoutVariable 1 (2 ^ 64) ∧
        ∃ value, lookup timeoutVariable = some value ∧ e = .invalidTimeout (Text.trim value) := by
  rw [readTimeout_eq, readNumber_eq_error_iff fun _ _ => timeout?_eq_some_iff]

theorem readPort_eq_error_iff {e : ConfigError} :
    readPort (setting? lookup portVariable) = .error e ↔
      ¬ Allows lookup portVariable 0 (2 ^ 16) ∧
        ∃ value, lookup portVariable = some value ∧ e = .invalidPort (Text.trim value) := by
  rw [readPort_eq, readNumber_eq_error_iff fun _ _ => port?_eq_some_iff]

/-- The configuration with these numbers. -/
def withNumbers (lookup : Text → Option Text) (timeout port : Nat) : Config where
  service := {
    apiKey := setting? lookup apiKeyVariable
    model := (setting? lookup modelVariable).getD ServiceSettings.standard.model
    endpoint := (setting? lookup endpointVariable).getD ServiceSettings.standard.endpoint
    timeoutSeconds := timeout }
  port := port
  keywords := (setting? lookup keywordsVariable).map splitKeywords

theorem ofLookup_eq (lookup : Text → Option Text) : ofLookup lookup =
    (readTimeout (setting? lookup timeoutVariable)).bind fun timeout =>
      (readPort (setting? lookup portVariable)).map (withNumbers lookup timeout) := by
  cases ht : readTimeout (setting? lookup timeoutVariable) with
  | error e => rw [ofLookup, ht]; rfl
  | ok timeout =>
      cases hp : readPort (setting? lookup portVariable) with
      | error e => rw [ofLookup, ht, hp]; rfl
      | ok port => rw [ofLookup, ht, hp]; rfl

/-- Every field has what its own variable says. -/
structure IsReadFrom (c : Config) (lookup : Text → Option Text) : Prop where
  apiKey : Says lookup apiKeyVariable none (fun text key => key = some text) c.service.apiKey
  model : Says lookup modelVariable ServiceSettings.standard.model (fun text model => model = text)
    c.service.model
  endpoint : Says lookup endpointVariable ServiceSettings.standard.endpoint
    (fun text endpoint => endpoint = text) c.service.endpoint
  timeout : Says lookup timeoutVariable ServiceSettings.standard.timeoutSeconds
    (IsNumber 1 (2 ^ 64)) c.service.timeoutSeconds
  port : Says lookup portVariable standardPort (IsNumber 0 (2 ^ 16)) c.port
  keywords : Says lookup keywordsVariable none
    (fun text keywords => keywords = some (splitKeywords text)) c.keywords

theorem isReadFrom_withNumbers {timeout port : Nat}
    (ht : readTimeout (setting? lookup timeoutVariable) = .ok timeout)
    (hp : readPort (setting? lookup portVariable) = .ok port) :
    (withNumbers lookup timeout port).IsReadFrom lookup where
  apiKey := says_eq_iff.2 (by cases h : setting? lookup apiKeyVariable <;> simp [withNumbers, h])
  model := says_eq_iff.2 (by simp [withNumbers])
  endpoint := says_eq_iff.2 (by simp [withNumbers])
  timeout := readTimeout_eq_ok_iff.1 ht
  port := readPort_eq_ok_iff.1 hp
  keywords := says_eq_iff.2 (by
    cases h : setting? lookup keywordsVariable <;> simp [withNumbers, h])

/-- Lookups that agree on a variable give its field the same value. -/
structure AgreeOnFields (c c' : Config) (lookup lookup' : Text → Option Text) : Prop where
  apiKey : Agree lookup lookup' apiKeyVariable → c.service.apiKey = c'.service.apiKey
  model : Agree lookup lookup' modelVariable → c.service.model = c'.service.model
  endpoint : Agree lookup lookup' endpointVariable → c.service.endpoint = c'.service.endpoint
  timeout : Agree lookup lookup' timeoutVariable →
    c.service.timeoutSeconds = c'.service.timeoutSeconds
  port : Agree lookup lookup' portVariable → c.port = c'.port
  keywords : Agree lookup lookup' keywordsVariable → c.keywords = c'.keywords

theorem IsReadFrom.agreeOnFields {c c' : Config} (h : c.IsReadFrom lookup)
    (h' : c'.IsReadFrom lookup') : AgreeOnFields c c' lookup lookup' where
  apiKey := h.apiKey.eq_of_agree (by rintro _ _ _ rfl rfl; rfl) h'.apiKey
  model := h.model.eq_of_agree (by rintro _ _ _ rfl rfl; rfl) h'.model
  endpoint := h.endpoint.eq_of_agree (by rintro _ _ _ rfl rfl; rfl) h'.endpoint
  timeout := h.timeout.eq_of_agree (fun _ _ _ hn hn' => hn.unique hn') h'.timeout
  port := h.port.eq_of_agree (fun _ _ _ hn hn' => hn.unique hn') h'.port
  keywords := h.keywords.eq_of_agree (by rintro _ _ _ rfl rfl; rfl) h'.keywords

/-- A configuration is what its fields are. -/
theorem AgreeOnFields.eq {c c' : Config} (h : AgreeOnFields c c' lookup lookup')
    (hagree : ∀ name ∈ variableNames, Agree lookup lookup' name) : c = c' := by
  simp only [variableNames, List.forall_mem_cons] at hagree
  obtain ⟨hkey, hmodel, hendpoint, htimeout, hport, hkeywords, -⟩ := hagree
  obtain ⟨⟨key, model, endpoint, timeout⟩, port, keywords⟩ := c
  obtain ⟨⟨key', model', endpoint', timeout'⟩, port', keywords'⟩ := c'
  cases h.apiKey hkey
  cases h.model hmodel
  cases h.endpoint hendpoint
  cases h.timeout htimeout
  cases h.port hport
  cases h.keywords hkeywords
  rfl

theorem ofLookup_eq_ok_iff {c : Config} : ofLookup lookup = .ok c ↔ c.IsReadFrom lookup := by
  rw [ofLookup_eq]
  constructor
  · intro h
    cases ht : readTimeout (setting? lookup timeoutVariable) with
    | error e =>
        rw [ht] at h
        cases h
    | ok timeout =>
        cases hp : readPort (setting? lookup portVariable) with
        | error e =>
            rw [ht, hp] at h
            cases h
        | ok port =>
            rw [ht, hp] at h
            cases h
            exact isReadFrom_withNumbers ht hp
  · intro h
    have ht := readTimeout_eq_ok_iff.2 h.timeout
    have hp := readPort_eq_ok_iff.2 h.port
    have heq := ((isReadFrom_withNumbers ht hp).agreeOnFields h).eq fun _ _ => agree_iff.2 rfl
    rw [ht, hp, ← heq]
    rfl

theorem ofLookup_eq_error_iff {e : ConfigError} : ofLookup lookup = .error e ↔
    (¬ Allows lookup timeoutVariable 1 (2 ^ 64) ∧
      ∃ value, lookup timeoutVariable = some value ∧ e = .invalidTimeout (Text.trim value)) ∨
    (Allows lookup timeoutVariable 1 (2 ^ 64) ∧ ¬ Allows lookup portVariable 0 (2 ^ 16) ∧
      ∃ value, lookup portVariable = some value ∧ e = .invalidPort (Text.trim value)) := by
  have hallows : Allows lookup timeoutVariable 1 (2 ^ 64) ↔
      ∃ n, readTimeout (setting? lookup timeoutVariable) = .ok n := by
    simp only [readTimeout_eq_ok_iff, ← allows_iff]
  rw [← readTimeout_eq_error_iff, ← readPort_eq_error_iff, hallows, ofLookup_eq]
  cases readTimeout (setting? lookup timeoutVariable) with
  | error e' => simp [Except.bind]
  | ok timeout =>
      cases readPort (setting? lookup portVariable) <;> simp [Except.bind, Except.map]

theorem ofLookup_congr (h : ∀ name ∈ variableNames, Agree lookup lookup' name) :
    ofLookup lookup' = ofLookup lookup := by
  simp only [variableNames, List.forall_mem_cons, agree_iff] at h
  obtain ⟨hkey, hmodel, hendpoint, htimeout, hport, hkeywords, -⟩ := h
  simp only [ofLookup, hkey, hmodel, hendpoint, htimeout, hport, hkeywords]

theorem isOk_ofLookup_iff : (ofLookup lookup).isOk = true ↔
    Allows lookup timeoutVariable 1 (2 ^ 64) ∧ Allows lookup portVariable 0 (2 ^ 16) := by
  rw [allows_iff ServiceSettings.standard.timeoutSeconds, allows_iff standardPort]
  simp only [← readTimeout_eq_ok_iff, ← readPort_eq_ok_iff]
  rw [ofLookup_eq]
  cases readTimeout (setting? lookup timeoutVariable) with
  | error e => simp [Except.bind, Except.isOk, Except.toBool]
  | ok timeout =>
      cases readPort (setting? lookup portVariable) <;>
        simp [Except.bind, Except.map, Except.isOk, Except.toBool]

/-! ## Keywords -/

/-- What stands between the commas of a value, without blanks around and without what is blank. -/
def entries (value : Text) : List Text :=
  ((Text.splitBy (· == ',') value).filter fun entry => !entry.all Text.isBlank).map Text.trim

theorem splitKeywords_trim (value : Text) : splitKeywords (Text.trim value) = entries value := by
  have hcomma : ∀ c, Text.isBlank c = true → (c == ',') = false := by
    intro c hc
    rw [beq_eq_false_iff_ne]
    rintro rfl
    exact absurd hc (by decide)
  rw [splitKeywords, Text.map_trim_splitBy_trim hcomma, List.filter_map, entries]
  congr 1
  refine List.filter_congr fun entry _ => ?_
  rw [Function.comp_apply, Bool.eq_iff_iff]
  simp [Text.IsBlanks, ← Text.isBlanks_iff_trim_eq_nil]

/-- Keywords that are trimmed already and not blank are all kept. -/
theorem keywords_ofKeywords_splitKeywords (text : Text) :
    (Classifier.ofKeywords (splitKeywords text)).keywords =
      (splitKeywords text).map Text.lowercase := by
  have hkept : ∀ k ∈ splitKeywords text, Text.trim k = k ∧ k ≠ [] := by
    intro k hk
    obtain ⟨hk, hne⟩ := List.mem_filter.1 hk
    obtain ⟨entry, -, rfl⟩ := List.mem_map.1 hk
    exact ⟨Text.trim_trim entry, by simpa using hne⟩
  have hmap : (splitKeywords text).map (fun k => Text.lowercase (Text.trim k)) =
      (splitKeywords text).map Text.lowercase :=
    List.map_congr_left fun k hk => by rw [(hkept k hk).1]
  rw [Classifier.ofKeywords, hmap]
  refine List.filter_eq_self.2 fun lowered hlowered => ?_
  obtain ⟨k, hk, rfl⟩ := List.mem_map.1 hlowered
  simpa [Text.lowercase_eq_nil_iff] using (hkept k hk).2

theorem keywords_default : (default : Classifier).keywords = Classifier.defaultKeywords := by
  decide +kernel

theorem IsReadFrom.keywords_classifier {c : Config} (h : c.IsReadFrom lookup) :
    Says lookup keywordsVariable Classifier.defaultKeywords
      (fun text keywords => keywords = (splitKeywords text).map Text.lowercase)
      c.classifier.keywords := by
  rcases h.keywords with ⟨hunset, heq⟩ | ⟨value, hvalue, hblank, heq⟩
  · refine .inl ⟨hunset, ?_⟩
    rw [classifier, heq]
    exact keywords_default
  · refine .inr ⟨value, hvalue, hblank, ?_⟩
    rw [classifier, heq]
    exact keywords_ofKeywords_splitKeywords _

/-- What comes of the variables. -/
structure ReadsSettings (lookup : Text → Option Text) : Prop where
  isOk_iff : (ofLookup lookup).isOk = true ↔
    Allows lookup timeoutVariable 1 (2 ^ 64) ∧ Allows lookup portVariable 0 (2 ^ 16)
  /-- The timeout is refused before the port, with the text that it has. -/
  error_iff : ∀ e, ofLookup lookup = .error e ↔
    (¬ Allows lookup timeoutVariable 1 (2 ^ 64) ∧
      ∃ value, lookup timeoutVariable = some value ∧ e = .invalidTimeout (Text.trim value)) ∨
    (Allows lookup timeoutVariable 1 (2 ^ 64) ∧ ¬ Allows lookup portVariable 0 (2 ^ 16) ∧
      ∃ value, lookup portVariable = some value ∧ e = .invalidPort (Text.trim value))
  reads : ∀ c, ofLookup lookup = .ok c → c.IsReadFrom lookup
  /-- A field does not change with the variables of the others. -/
  apart : ∀ c lookup' c', ofLookup lookup = .ok c → ofLookup lookup' = .ok c' →
    AgreeOnFields c c' lookup lookup'
  same : ∀ lookup', (∀ name ∈ variableNames, Agree lookup lookup' name) →
    ofLookup lookup' = ofLookup lookup
  keywords_of_unset : ∀ c, ofLookup lookup = .ok c → IsUnset lookup keywordsVariable →
    c.classifier.keywords = Classifier.defaultKeywords
  keywords_of_set : ∀ c value, ofLookup lookup = .ok c → lookup keywordsVariable = some value →
    ¬ value.IsBlanks → c.classifier.keywords = (entries value).map Text.lowercase

theorem readsSettings (lookup : Text → Option Text) : ReadsSettings lookup where
  isOk_iff := isOk_ofLookup_iff
  error_iff := fun _ => ofLookup_eq_error_iff
  reads := fun _ => ofLookup_eq_ok_iff.1
  apart := fun _ _ _ h h' => (ofLookup_eq_ok_iff.1 h).agreeOnFields (ofLookup_eq_ok_iff.1 h')
  same := fun _ => ofLookup_congr
  keywords_of_unset := by
    intro c hc hunset
    rcases (ofLookup_eq_ok_iff.1 hc).keywords_classifier with ⟨-, h⟩ | ⟨value, hvalue, hblank, -⟩
    · exact h
    · exact absurd (hunset value hvalue) hblank
  keywords_of_set := by
    intro c value hc hvalue hblank
    rcases (ofLookup_eq_ok_iff.1 hc).keywords_classifier with ⟨hunset, -⟩ | ⟨_, hvalue', -, h⟩
    · exact absurd (hunset value hvalue) hblank
    · cases hvalue.symm.trans hvalue'
      rw [h, splitKeywords_trim]

end Config

end Flowchart
