import HexMonitor.Settings.Environment

namespace HexMonitor.Settings

/-- What a command line can say: a value for a setting, or that pages of other origins may read the
answers. -/
inductive Occurrence
  | given (s : Setting) (text : String)
  | cors
  deriving DecidableEq, Repr

inductive LetterName : String → Setting → Prop
  | listen : LetterName "-l" .listen
  | www : LetterName "-w" .www

/-- `Names name s`: an argument that is `name` is the option of the setting `s`. -/
inductive Names : String → Setting → Prop
  | long (s : Setting) : Names ("--" ++ s.optionName) s
  | letter {name : String} {s : Setting} (h : LetterName name s) : Names name s

def IsValue (text : String) : Prop := text = "-" ∨ text.toList.head? ≠ some '-'

/-- `Says arguments os`: `arguments` is well formed, and `os` is what it says, in this order. -/
inductive Says : List String → List Occurrence → Prop
  | nil : Says [] []
  | separator : Says ["--"] []
  | cors {rest : List String} {os : List Occurrence} (h : Says rest os) :
      Says ("--cors" :: rest) (.cors :: os)
  | attached {name : String} {s : Setting} {rest : List String} {os : List Occurrence}
      (text : String) (hn : Names name s) (h : Says rest os) :
      Says ((name ++ "=" ++ text) :: rest) (.given s text :: os)
  | separate {name text : String} {s : Setting} {rest : List String} {os : List Occurrence}
      (hn : Names name s) (ht : IsValue text) (h : Says rest os) :
      Says (name :: text :: rest) (.given s text :: os)
  | joined {name text : String} {s : Setting} {c : Char} {rest : List String}
      {os : List Occurrence} (hn : LetterName name s) (hc : text.toList.head? = some c)
      (he : c ≠ '=') (h : Says rest os) : Says ((name ++ text) :: rest) (.given s text :: os)

namespace Draft

def take (d : Draft) : Occurrence → Except EarlyExit Draft
  | .given s text => d.give s text
  | .cors => d.turnOn .cors

def takeAll (d : Draft) (os : List Occurrence) : Except EarlyExit Draft := os.foldlM take d

theorem takeAll_cons (d : Draft) (o : Occurrence) (os : List Occurrence) :
    d.takeAll (o :: os) = d.take o >>= (takeAll · os) := List.foldlM_cons

end Draft

/-- A computation that succeeds did so in both of its parts. -/
theorem exists_of_bind_eq_ok {α β : Type} {x : Except EarlyExit α} {f : α → Except EarlyExit β}
    {b : β} (h : x >>= f = .ok b) : ∃ a, x = .ok a ∧ f a = .ok b := by
  cases x with
  | error e => cases h
  | ok a => exact ⟨a, rfl, h⟩

namespace Argument

def toText : Argument → String
  | separator => "--"
  | long name none => "--" ++ name
  | long name (some value) => "--" ++ name ++ "=" ++ value
  | cluster letters => String.ofList ('-' :: letters)
  | plain text => text

theorem toText_ofText (text : String) : (ofText text).toText = text := by
  apply String.toList_inj.1
  unfold ofText
  split
  · rename_i h
    rw [h]
    rfl
  · rename_i rest _ h
    have hs : rest.takeWhile (· ≠ '=') ++ rest.dropWhile (· ≠ '=') = rest :=
      List.takeWhile_append_dropWhile
    rw [h]
    split
    · rename_i hd
      rw [hd, List.append_nil] at hs
      simpa [toText] using hs
    · rename_i c value hd
      -- What is dropped begins with the sign that ends the name.
      have hc : c = '=' := by
        have hn := List.head?_dropWhile_not (· ≠ '=') rest
        rw [hd] at hn
        simpa using hn
      rw [hd, hc] at hs
      simpa [toText] using hs
  · rename_i h
    rw [h]
    simp [toText]
  · rfl

theorem eq_toText {text : String} {a : Argument} (h : ofText text = a) : text = a.toText :=
  h ▸ (toText_ofText text).symm

theorem isValue_of_ofText {text value : String} (h : ofText text = plain value) : IsValue text := by
  unfold ofText at h
  split at h
  · cases h
  · split at h <;> cases h
  · cases h
  · rename_i hlong hcluster
    cases ht : text.toList with
    | nil =>
      right
      simp [ht]
    | cons c cs =>
      by_cases hc : c = '-'
      · -- A dash has nothing behind it here.
        left
        cases cs with
        | nil =>
          apply String.toList_inj.1
          rw [ht, hc]
          rfl
        | cons c' cs => exact absurd (hc ▸ ht) (hcluster c' cs)
      · right
        simpa [ht] using hc

theorem ofText_of_isValue {text : String} (h : IsValue text) : ofText text = plain text := by
  rcases h with rfl | h
  · decide
  · unfold ofText
    split
    · rename_i ht
      simp [ht] at h
    · rename_i ht
      simp [ht] at h
    · rename_i ht
      simp [ht] at h
    · rfl

theorem ofText_long (s : Setting) : ofText ("--" ++ s.optionName) = long s.optionName none := by
  cases s <;> decide

theorem ofText_longValue (s : Setting) (text : String) :
    ofText ("--" ++ s.optionName ++ "=" ++ text) = long s.optionName (some text) := by
  cases s <;> simp [ofText, Setting.optionName]

end Argument

theorem Flag.ofLong?_optionName (s : Setting) : ofLong? s.optionName = some (.setting s) := by
  cases s <;> decide

/-- A letter begins a cluster with whatever is behind it. -/
theorem LetterName.exists_letter {name : String} {s : Setting} (h : LetterName name s) :
    ∃ c, Flag.ofShort? c = some (.setting s) ∧
      ∀ text, Argument.ofText (name ++ text) = .cluster (c :: text.toList) := by
  cases h with
  | listen => exact ⟨'l', rfl, fun text => by simp [Argument.ofText]⟩
  | www => exact ⟨'w', rfl, fun text => by simp [Argument.ofText]⟩

theorem letterName_of_ofShort? {c : Char} {s : Setting} (h : Flag.ofShort? c = some (.setting s)) :
    LetterName (String.ofList ['-', c]) s := by
  unfold Flag.ofShort? at h
  split at h
  · cases h
    exact .listen
  · cases h
    exact .www
  · cases h
  · cases h
  · cases h

namespace Draft

variable {name text : String} {s : Setting} (d : Draft) (p : Pending) (rest : List String)

theorem readArguments_attached (hn : Names name s) (text : String) :
    d.readArguments p ((name ++ "=" ++ text) :: rest) =
      d.settle p >>= fun d => d.give s text >>= fun d => d.readArguments .nothing rest := by
  cases hn with
  | long s =>
    conv => lhs; unfold readArguments
    simp only [Argument.ofText_longValue, Flag.ofLong?_optionName]
  | letter h =>
    obtain ⟨c, hf, ha⟩ := h.exists_letter
    have ht : ("=" ++ text).toList = '=' :: text.toList := by simp
    rw [String.append_assoc]
    conv => lhs; unfold readArguments
    simp only [ha, ht, readCluster, hf, String.ofList_toList, bind_assoc, pure_bind]

theorem readArguments_separate (hn : Names name s) :
    d.readArguments p (name :: rest) =
      d.settle p >>= fun d => d.readArguments (.awaiting s) rest := by
  cases hn with
  | long s =>
    conv => lhs; unfold readArguments
    simp only [Argument.ofText_long, Flag.ofLong?_optionName]
  | letter h =>
    obtain ⟨c, hf, ha⟩ := h.exists_letter
    have hc := ha ""
    rw [String.append_empty] at hc
    conv => lhs; unfold readArguments
    simp only [hc, String.toList_empty, readCluster, hf, bind_assoc, pure_bind]

theorem readArguments_joined (hn : LetterName name s) {c : Char} (hc : text.toList.head? = some c)
    (he : c ≠ '=') :
    d.readArguments p ((name ++ text) :: rest) =
      d.settle p >>= fun d => d.give s text >>= fun d => d.readArguments .nothing rest := by
  obtain ⟨c', hf, ha⟩ := hn.exists_letter
  obtain ⟨cs, ht⟩ := List.head?_eq_some_iff.1 hc
  have hv : String.ofList (c :: cs) = text := by rw [← ht, String.ofList_toList]
  conv => lhs; unfold readArguments
  simp only [ha, ht, readCluster, hf]
  split
  · rename_i h
    cases h
  · rename_i h
    cases h
    exact absurd rfl he
  · simp only [hv, bind_assoc, pure_bind]

theorem readArguments_cors :
    d.readArguments p ("--cors" :: rest) =
      d.settle p >>= fun d => d.turnOn .cors >>= fun d => d.readArguments .nothing rest := by
  have ha : Argument.ofText "--cors" = .long "cors" none := by decide
  have hf : Flag.ofLong? "cors" = some (.switch .cors) := by decide
  conv => lhs; unfold readArguments
  simp only [ha, hf]

theorem readArguments_value (ht : IsValue text) :
    d.readArguments (.awaiting s) (text :: rest) = d.readArguments (.holding s text) rest := by
  conv => lhs; unfold readArguments
  simp only [Argument.ofText_of_isValue ht]

/-- A command line that says `os` has the outcome of taking over `os`, behind the value of an option
before it. -/
theorem readArguments_of_says {arguments : List String} {os : List Occurrence}
    (h : Says arguments os) (d : Draft) (p : Pending) :
    d.readArguments p arguments = d.settle p >>= (takeAll · os) := by
  induction h generalizing d p with
  | nil => exact (bind_pure (d.settle p)).symm
  | separator => exact (bind_pure (d.settle p)).symm
  | cors _ ih =>
    simp only [readArguments_cors, ih, takeAll_cons]
    rfl
  | attached text hn _ ih =>
    simp only [readArguments_attached _ _ _ hn, ih, takeAll_cons]
    rfl
  | separate hn ht _ ih =>
    simp only [readArguments_separate _ _ _ hn, readArguments_value _ _ ht, ih, takeAll_cons]
    rfl
  | joined hn hc he _ ih =>
    simp only [readArguments_joined _ _ _ hn hc he, ih, takeAll_cons]
    rfl

end Draft

/-- What can stand behind an option whose value is not judged yet: the value first, if it is still to
come. -/
def Pending.Precedes : Pending → List String → Prop
  | .awaiting _, arguments => ∃ text rest os, arguments = text :: rest ∧ IsValue text ∧ Says rest os
  | _, arguments => ∃ os, Says arguments os

theorem Pending.precedes_of_settle {d d' : Draft} {p : Pending} {arguments : List String}
    {os : List Occurrence} (hs : d.settle p = .ok d') (h : Says arguments os) :
    p.Precedes arguments := by
  cases p with
  | nothing | holding => exact ⟨os, h⟩
  | awaiting => cases hs

/-- What stands behind a letter in its cluster is its value, with a sign in front or without. -/
theorem Says.letters {c : Char} {letters : List Char} {s : Setting} {rest : List String}
    {os : List Occurrence} (h : Says rest os) (hn : LetterName (String.ofList ['-', c]) s)
    (hne : letters ≠ []) :
    ∃ text, Says (String.ofList ('-' :: c :: letters) :: rest) (.given s text :: os) := by
  obtain ⟨c', value, rfl⟩ := List.exists_cons_of_ne_nil hne
  by_cases hc : c' = '='
  · have ht : String.ofList ('-' :: c :: c' :: value) =
        String.ofList ['-', c] ++ "=" ++ String.ofList value := by
      apply String.toList_inj.1
      simp [hc]
    rw [ht]
    exact ⟨_, .attached _ (.letter hn) h⟩
  · have ht : String.ofList ('-' :: c :: c' :: value) =
        String.ofList ['-', c] ++ String.ofList (c' :: value) := by
      apply String.toList_inj.1
      simp
    have hh : (String.ofList (c' :: value)).toList.head? = some c' := by simp
    rw [ht]
    exact ⟨_, .joined hn hh hc h⟩

def Flag.optionName : Flag → String
  | setting s => s.optionName
  | switch w => w.optionName

theorem eq_optionName_of_ofLong? {name : String} {f : Flag} (h : Flag.ofLong? name = some f) :
    name = f.optionName := by
  unfold Flag.ofLong? at h
  split at h
  · rename_i s hs
    cases h
    have hn := List.find?_some hs
    exact (of_decide_eq_true hn).symm
  · obtain ⟨w, hw, rfl⟩ := Option.map_eq_some_iff.1 h
    have hn := List.find?_some hw
    exact (of_decide_eq_true hn).symm

/-- A cluster that does not end the reading is one option, with its value or without it. -/
theorem Draft.letterName_of_readCluster {d d' : Draft} {p p' : Pending} {c : Char}
    {letters : List Char} (h : d.readCluster p (c :: letters) = .ok (d', p')) :
    ∃ s d₁, LetterName (String.ofList ['-', c]) s ∧ d.settle p = .ok d₁ ∧
      ((letters = [] ∧ p' = .awaiting s) ∨ (letters ≠ [] ∧ p' = .nothing)) := by
  unfold readCluster at h
  split at h
  · cases h
  · -- The switches of one letter are those for help and for the version.
    rename_i w hf
    obtain ⟨d₁, -, h⟩ := exists_of_bind_eq_ok h
    obtain ⟨d₂, ht, -⟩ := exists_of_bind_eq_ok h
    unfold Flag.ofShort? at hf
    split at hf <;> cases hf <;> cases ht
  · rename_i s hf
    obtain ⟨d₁, hs, h⟩ := exists_of_bind_eq_ok h
    refine ⟨s, d₁, letterName_of_ofShort? hf, hs, ?_⟩
    split at h
    · cases h
      exact .inl ⟨rfl, rfl⟩
    · obtain ⟨d₂, -, h⟩ := exists_of_bind_eq_ok h
      cases h
      exact .inr ⟨List.cons_ne_nil _ _, rfl⟩
    · rename_i hn _
      obtain ⟨d₂, -, h⟩ := exists_of_bind_eq_ok h
      cases h
      exact .inr ⟨hn, rfl⟩

/-- Only what is well formed is read. -/
theorem precedes_of_readArguments {d d' : Draft} {p : Pending} {arguments : List String}
    (h : d.readArguments p arguments = .ok d') : p.Precedes arguments := by
  fun_induction Draft.readArguments d p arguments with
  | case1 d p => exact Pending.precedes_of_settle h .nil
  | case2 d p text ha =>
    obtain rfl : text = "--" := Argument.eq_toText ha
    exact Pending.precedes_of_settle h .separator
  | case3 => cases h
  | case4 => cases h
  | case5 => cases h
  | case6 d p text rest name w hf ha ih =>
    obtain ⟨d₁, hs, h⟩ := exists_of_bind_eq_ok h
    obtain ⟨d₂, ht, h⟩ := exists_of_bind_eq_ok h
    obtain ⟨os, hos⟩ := ih d₂ h
    cases w with
    | cors =>
      obtain rfl := eq_optionName_of_ofLong? hf
      obtain rfl : text = "--cors" := Argument.eq_toText ha
      exact Pending.precedes_of_settle hs hos.cors
    | help | version => cases ht
  | case7 d p text rest name s value hf ha ih =>
    obtain ⟨d₁, hs, h⟩ := exists_of_bind_eq_ok h
    obtain ⟨d₂, -, h⟩ := exists_of_bind_eq_ok h
    obtain ⟨os, hos⟩ := ih d₂ h
    obtain rfl := eq_optionName_of_ofLong? hf
    rw [Argument.eq_toText ha]
    exact Pending.precedes_of_settle hs (.attached value (.long s) hos)
  | case8 d p text rest name s hf ha ih =>
    obtain ⟨d₁, hs, h⟩ := exists_of_bind_eq_ok h
    obtain ⟨value, rest', os, rfl, hv, hos⟩ := ih d₁ h
    obtain rfl := eq_optionName_of_ofLong? hf
    rw [Argument.eq_toText ha]
    exact Pending.precedes_of_settle hs (.separate (.long s) hv hos)
  | case9 d p text rest letters ha ih =>
    obtain ⟨⟨d₁, p₁⟩, hc, h⟩ := exists_of_bind_eq_ok h
    have hr := ih d₁ p₁ h
    cases letters with
    | nil =>
      obtain rfl : text = "-" := Argument.eq_toText ha
      exact absurd ha (by decide)
    | cons c letters =>
      obtain ⟨s, d₂, hn, hs, ⟨rfl, rfl⟩ | ⟨hne, rfl⟩⟩ := Draft.letterName_of_readCluster hc
      · obtain ⟨value, rest', os, rfl, hv, hos⟩ := hr
        rw [Argument.eq_toText ha]
        exact Pending.precedes_of_settle hs (.separate (.letter hn) hv hos)
      · obtain ⟨os, hos⟩ := hr
        obtain ⟨value, hv⟩ := hos.letters hn hne
        rw [Argument.eq_toText ha]
        exact Pending.precedes_of_settle hs hv
  | case10 d text rest value ha s ih =>
    obtain ⟨os, hos⟩ := ih h
    exact ⟨text, rest, os, rfl, Argument.isValue_of_ofText ha, hos⟩
  | case11 => cases h

/-- A command line that is read says something. -/
theorem exists_says_of_readCommandLine {arguments : List String} {d : Draft}
    (h : readCommandLine arguments = .ok d) : ∃ os, Says arguments os :=
  precedes_of_readArguments h

theorem readCommandLine_of_says {arguments : List String} {os : List Occurrence}
    (h : Says arguments os) : readCommandLine arguments = Draft.takeAll {} os :=
  Draft.readArguments_of_says h {} .nothing

end HexMonitor.Settings
