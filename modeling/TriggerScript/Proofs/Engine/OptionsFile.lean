import TriggerScript.Engine.Settings
import TriggerScript.Proofs.Text.Parts

/-!
# What an options file says

Each setting has a key, and the last line that states a value for the key counts. A value that makes
no sense counts as the one that holds if nothing is set. So lines for different keys may change
places, and lines that state nothing, or something for an unknown key, may stand anywhere.

* `Faulty`, `States`, `FirstFaulty` : lines that cannot be read, and what the others say.
* `Denotes`, `Stated` : what the lines say about one setting, and about all of them.
* `apply_eq` : what one line does to each setting.
* `settled`, `applyLines_eq_ok` : what all lines do to each setting.
* `applyLines_swap`, `applyLines_insert` : the order of lines, and lines that do not count.
* `parse_spec` : what the content of a file gives.
-/

namespace TriggerScript.Settings

open Text

variable {α : Type}

/-! ### Lines -/

/-- A line is neither blank nor a comment. -/
def Speaks (raw : List Char) : Prop :=
  trim raw ≠ [] ∧ (trim raw).head? ≠ some '#'

/-- A line that says something, but has no equals sign. -/
def Faulty (raw : List Char) : Prop :=
  Speaks raw ∧ '=' ∉ trim raw

/-- A line states a value for a key, which may be written in any letter case. -/
def States (raw : List Char) (key : String) (value : List Char) : Prop :=
  Speaks raw ∧ ∃ before after, trim raw = before ++ '=' :: after ∧ '=' ∉ before ∧
    String.ofList (lower (trim before)) = key ∧ trim after = value

/-- The first line that cannot be read, and how many lines are before it. -/
structure FirstFaulty (lines : List (List Char)) (n : Nat) (raw : List Char) : Prop where
  here : lines[n]? = some raw
  faulty : Faulty raw
  first : ∀ m < n, ∀ other, lines[m]? = some other → ¬Faulty other

/-- The failure that names a line and its number. -/
def faultAt (number : Nat) (raw : List Char) : ServiceFault :=
  .settings ("line " ++ toString number ++ ": expected 'key = value', found '" ++
    String.ofList (trim raw) ++ "'")

/-- The last line for a key states a value. -/
def IsLast (lines : List (List Char)) (key : String) (value : List Char) : Prop :=
  ∃ front raw back, lines = front ++ raw :: back ∧ States raw key value ∧
    ∀ other ∈ back, ∀ value', ¬States other key value'

/-! ### Settings one by one -/

/-- One of the settings: the key that lines name it by, the values that make sense, and what holds
if no line sets it. -/
structure Setting (α : Type) where
  key : String
  read? : List Char → Option α
  unset : α

namespace Setting

def scriptsFolder : Setting String :=
  ⟨"scripts_folder", fun value => some (String.ofList value), standard.scriptsFolder⟩

/-- A file extension, with or without dots before it. -/
def extension : Setting String :=
  ⟨"script_extension", fun value => some (String.ofList (value.dropWhile (· == '.'))),
    standard.extension⟩

def disabledStart : Setting String :=
  ⟨"disabled_prefix", fun value => some (String.ofList value), standard.disabledStart⟩

/-- Zero makes no sense here. -/
def tick : Setting Nat :=
  ⟨"tick_millis", fun value => (Decimal.readNat? maxTime value).filter (0 < ·), standard.tick⟩

def patience : Setting Nat :=
  ⟨"sync_timeout_ms", Decimal.readNat? maxTime, standard.patience⟩

def verbosity : Setting Verbosity :=
  ⟨"verbosity", fun value => Verbosity.ofName? (String.ofList value), standard.verbosity⟩

def warnMissingAnd : Setting Bool :=
  ⟨"warn_missing_and", fun value =>
    if String.ofList value = "true" then some true
    else if String.ofList value = "false" then some false
    else none, standard.warnMissingAnd⟩

/-- The name of a format, in any letter case. -/
def reportFormat : Setting ReportFormat :=
  ⟨"report_format", fun value =>
    if lower value = ['j', 's', 'o', 'n'] then some .json
    else if lower value = ['t', 'e', 'x', 't'] then some .text
    else none, standard.reportFormat⟩

/-- The keys of all settings. -/
def keys : List String :=
  [scriptsFolder.key, extension.key, disabledStart.key, tick.key, patience.key, verbosity.key,
    warnMissingAnd.key, reportFormat.key]

/-- What a value stands for; what makes no sense sets nothing. -/
def value (setting : Setting α) (cs : List Char) : α :=
  (setting.read? cs).getD setting.unset

/-- What lines say about a setting: what the last line for its key says, if there is one. -/
def Denotes (setting : Setting α) (lines : List (List Char)) (x : α) : Prop :=
  (∃ cs, IsLast lines setting.key cs ∧ x = setting.value cs) ∨
    (∀ raw ∈ lines, ∀ cs, ¬States raw setting.key cs) ∧ x = setting.unset

end Setting

/-- The settings are what lines say about each of them. -/
structure Stated (lines : List (List Char)) (s : Settings) : Prop where
  scriptsFolder : Setting.scriptsFolder.Denotes lines s.scriptsFolder
  extension : Setting.extension.Denotes lines s.extension
  disabledStart : Setting.disabledStart.Denotes lines s.disabledStart
  tick : Setting.tick.Denotes lines s.tick
  patience : Setting.patience.Denotes lines s.patience
  verbosity : Setting.verbosity.Denotes lines s.verbosity
  warnMissingAnd : Setting.warnMissingAnd.Denotes lines s.warnMissingAnd
  reportFormat : Setting.reportFormat.Denotes lines s.reportFormat

/-- A line that is blank, a comment, or about a key that is not known. -/
def Idle (raw : List Char) : Prop :=
  ¬Speaks raw ∨ ∃ key value, States raw key value ∧ key ∉ Setting.keys

/-- Changes each setting on its own. -/
def each (f : {α : Type} → Setting α → α → α) (s : Settings) : Settings where
  scriptsFolder := f .scriptsFolder s.scriptsFolder
  extension := f .extension s.extension
  disabledStart := f .disabledStart s.disabledStart
  tick := f .tick s.tick
  patience := f .patience s.patience
  verbosity := f .verbosity s.verbosity
  warnMissingAnd := f .warnMissingAnd s.warnMissingAnd
  reportFormat := f .reportFormat s.reportFormat

/-! ### Reading a line -/

theorem isSilent_eq_false_iff {raw : List Char} : isSilent (trim raw) = false ↔ Speaks raw := by
  rw [Speaks]
  cases trim raw <;> simp [isSilent]

/-- The key and the value that a line states. -/
def statement? (raw : List Char) : Option (String × List Char) :=
  if isSilent (trim raw) then none else keyValue? (trim raw)

theorem statement?_eq_some_iff {raw value : List Char} {key : String} :
    statement? raw = some (key, value) ↔ States raw key value := by
  rw [statement?, States, ← isSilent_eq_false_iff]
  cases isSilent (trim raw) with
  | true => simp
  | false =>
    simp only [Bool.false_eq_true, if_false, true_and, keyValue?, Option.map_eq_some_iff,
      Prod.exists, cutAt?_eq_some_iff, Prod.mk.injEq, and_assoc]

theorem faulty_iff {raw : List Char} :
    Faulty raw ↔ isSilent (trim raw) = false ∧ keyValue? (trim raw) = none := by
  rw [Faulty, ← isSilent_eq_false_iff, keyValue?, Option.map_eq_none_iff, cutAt?_eq_none_iff]

theorem not_faulty_of_states {raw value : List Char} {key : String} (h : States raw key value) :
    ¬Faulty raw := by
  obtain ⟨-, before, after, heq, -⟩ := h
  rintro ⟨-, hnone⟩
  exact hnone (by simp [heq])

theorem statement?_eq_none_iff {raw : List Char} :
    statement? raw = none ↔ ¬Speaks raw ∨ Faulty raw := by
  rw [statement?, faulty_iff, ← isSilent_eq_false_iff]
  cases isSilent (trim raw) <;> simp

/-- The value that a line states for a key. -/
def value? (key : String) (raw : List Char) : Option (List Char) :=
  (statement? raw).bind fun stated => if stated.1 = key then some stated.2 else none

theorem value?_eq_some_iff {raw value : List Char} {key : String} :
    value? key raw = some value ↔ States raw key value := by
  rw [← statement?_eq_some_iff, value?, Option.bind_eq_some_iff]
  constructor
  · rintro ⟨⟨key', value'⟩, hstated, heq⟩
    obtain ⟨rfl, hvalue⟩ := Option.ite_none_right_eq_some.1 heq
    rw [hstated, ← Option.some.inj hvalue]
  · intro h
    exact ⟨_, h, if_pos rfl⟩

theorem value?_eq_none_iff {raw : List Char} {key : String} :
    value? key raw = none ↔ ∀ value, ¬States raw key value := by
  simp only [Option.eq_none_iff_forall_ne_some, ne_eq, value?_eq_some_iff]

/-! ### The last line for a key -/

/-- The value that the last line for a key states. -/
def lastValue? (key : String) : List (List Char) → Option (List Char)
  | [] => none
  | raw :: rest => (lastValue? key rest).or (value? key raw)

theorem lastValue?_eq_none_iff {key : String} {lines : List (List Char)} :
    lastValue? key lines = none ↔ ∀ raw ∈ lines, ∀ value, ¬States raw key value := by
  induction lines with
  | nil => simp [lastValue?]
  | cons raw rest ih =>
    rw [lastValue?, Option.or_eq_none_iff, ih, value?_eq_none_iff, List.forall_mem_cons, and_comm]

theorem lastValue?_eq_some_iff {key : String} {lines : List (List Char)} {value : List Char} :
    lastValue? key lines = some value ↔ IsLast lines key value := by
  induction lines with
  | nil => simp [lastValue?, IsLast]
  | cons raw rest ih =>
    rw [lastValue?, Option.or_eq_some_iff, ih, lastValue?_eq_none_iff, value?_eq_some_iff]
    constructor
    · rintro (⟨front, last, back, rfl, hlast⟩ | ⟨hlater, hraw⟩)
      · exact ⟨raw :: front, last, back, rfl, hlast⟩
      · exact ⟨[], raw, rest, rfl, hraw, hlater⟩
    · rintro ⟨front, last, back, heq, hlast, hlater⟩
      cases front with
      | nil =>
        obtain ⟨rfl, rfl⟩ := List.cons.inj heq
        exact .inr ⟨hlater, hlast⟩
      | cons first front =>
        obtain ⟨rfl, rfl⟩ := List.cons.inj heq
        exact .inl ⟨front, last, back, rfl, hlast, hlater⟩

/-- What lines make of a setting that has a value already. -/
def Setting.overwrite (lines : List (List Char)) (setting : Setting α) (current : α) : α :=
  (lastValue? setting.key lines).elim current setting.value

theorem Setting.denotes_iff {setting : Setting α} {lines : List (List Char)} {x : α} :
    setting.Denotes lines x ↔ x = setting.overwrite lines setting.unset := by
  simp only [Denotes, overwrite, ← lastValue?_eq_some_iff, ← lastValue?_eq_none_iff]
  cases lastValue? setting.key lines <;> simp

theorem Setting.overwrite_cons (raw : List Char) (rest : List (List Char)) (setting : Setting α)
    (current : α) : setting.overwrite (raw :: rest) current =
      setting.overwrite rest ((value? setting.key raw).elim current setting.value) := by
  rw [overwrite, overwrite, lastValue?]
  cases lastValue? setting.key rest <;> rfl

/-- What the lines say is one record of settings. -/
theorem stated_iff {lines : List (List Char)} {s : Settings} :
    Stated lines s ↔ s = standard.each (Setting.overwrite lines) := by
  constructor
  · rintro ⟨hfolder, hextension, hdisabled, htick, hpatience, hverbosity, hwarn, hformat⟩
    cases s
    rw [each, mk.injEq]
    exact ⟨Setting.denotes_iff.1 hfolder, Setting.denotes_iff.1 hextension,
      Setting.denotes_iff.1 hdisabled, Setting.denotes_iff.1 htick,
      Setting.denotes_iff.1 hpatience, Setting.denotes_iff.1 hverbosity,
      Setting.denotes_iff.1 hwarn, Setting.denotes_iff.1 hformat⟩
  · rintro rfl
    constructor <;> exact Setting.denotes_iff.2 rfl

/-! ### What lines do -/

/-- What a value makes of a setting if it is for the key of it. -/
def Setting.assign (key : String) (cs : List Char) (setting : Setting α) (current : α) : α :=
  if key = setting.key then setting.value cs else current

theorem Setting.assign_of_ne {key : String} {setting : Setting α} (h : key ≠ setting.key)
    (cs : List Char) (current : α) : setting.assign key cs current = current :=
  if_neg h

theorem Setting.value_warnMissingAnd (cs : List Char) :
    warnMissingAnd.value cs = (String.ofList cs != "false") := by
  simp only [value, warnMissingAnd, standard]
  split
  · next htrue => simp [htrue]
  · split
    · next hfalse => simp [hfalse]
    · next hfalse => simp [hfalse]

theorem Setting.value_reportFormat (cs : List Char) :
    reportFormat.value cs = if lower cs == ['j', 's', 'o', 'n'] then .json else .text := by
  simp only [value, reportFormat, standard, beq_iff_eq]
  split
  · rfl
  · split <;> rfl

/-- A value for a key that is not known changes nothing. -/
theorem each_assign_of_notMem {key : String} (h : key ∉ Setting.keys) (s : Settings)
    (cs : List Char) : s.each (Setting.assign key cs) = s := by
  simp only [Setting.keys, List.mem_cons, List.not_mem_nil, or_false, not_or] at h
  obtain ⟨hfolder, hextension, hdisabled, htick, hpatience, hverbosity, hwarn, hformat⟩ := h
  rw [each, Setting.assign_of_ne hfolder, Setting.assign_of_ne hextension,
    Setting.assign_of_ne hdisabled, Setting.assign_of_ne htick, Setting.assign_of_ne hpatience,
    Setting.assign_of_ne hverbosity, Setting.assign_of_ne hwarn, Setting.assign_of_ne hformat]

/-- **What one line does to each setting.** -/
theorem apply_eq (s : Settings) (key : String) (value : List Char) :
    s.apply key value = s.each (Setting.assign key value) := by
  unfold apply
  split
  case' h_7 => rw [← Setting.value_warnMissingAnd]
  case' h_8 => rw [← Setting.value_reportFormat]
  case h_9 hfolder hextension hdisabled htick hpatience hverbosity hwarn hformat =>
    have hunknown : ∀ known ∈ Setting.keys, key ≠ known := by
      simp only [Setting.keys, List.forall_mem_cons]
      exact ⟨hfolder, hextension, hdisabled, htick, hpatience, hverbosity, hwarn, hformat,
        List.forall_mem_nil _⟩
    exact (each_assign_of_notMem (fun hmem => hunknown key hmem rfl) s value).symm
  all_goals
    simp [each, Setting.assign, Setting.value, Setting.scriptsFolder, Setting.extension,
      Setting.disabledStart, Setting.tick, Setting.patience, Setting.verbosity,
      Setting.warnMissingAnd, Setting.reportFormat, standard]

theorem each_each (f g : {α : Type} → Setting α → α → α) (s : Settings) :
    (s.each f).each g = s.each fun setting x => g setting (f setting x) :=
  rfl

theorem each_congr {f g : {α : Type} → Setting α → α → α}
    (h : ∀ {α : Type} (setting : Setting α) (x : α), f setting x = g setting x) (s : Settings) :
    s.each f = s.each g := by
  simp only [each, h]

/-- Values for different keys may be set in either order. -/
theorem apply_comm {key key' : String} (h : key ≠ key') (s : Settings) (cs cs' : List Char) :
    (s.apply key cs).apply key' cs' = (s.apply key' cs').apply key cs := by
  simp only [apply_eq, each_each]
  refine each_congr (fun setting x => ?_) s
  by_cases hkey : key = setting.key
  · have hkey' : key' ≠ setting.key := hkey ▸ h.symm
    rw [Setting.assign_of_ne hkey', Setting.assign_of_ne hkey']
  · rw [Setting.assign_of_ne hkey, Setting.assign_of_ne hkey]

/-! ### Lines one after the other -/

section Lines

variable {raw : List Char} {key : String} {value : List Char}

/-- A line says nothing, cannot be read, or states something. -/
theorem line_cases (raw : List Char) :
    ¬Speaks raw ∨ Faulty raw ∨ ∃ key value, States raw key value := by
  cases hstated : statement? raw with
  | none => exact (statement?_eq_none_iff.1 hstated).imp_right .inl
  | some stated => exact .inr (.inr ⟨_, _, statement?_eq_some_iff.1 hstated⟩)

theorem applyLines_of_not_speaks (h : ¬Speaks raw) (s : Settings) (n : Nat)
    (rest : List (List Char)) : s.applyLines n (raw :: rest) = s.applyLines (n + 1) rest := by
  rw [← isSilent_eq_false_iff, Bool.not_eq_false] at h
  rw [applyLines]
  exact if_pos h

theorem applyLines_of_states (h : States raw key value) (s : Settings) (n : Nat)
    (rest : List (List Char)) :
    s.applyLines n (raw :: rest) = (s.apply key value).applyLines (n + 1) rest := by
  have hspeaks : ¬isSilent (trim raw) = true := by
    rw [Bool.not_eq_true]
    exact isSilent_eq_false_iff.2 h.1
  have hstated : keyValue? (trim raw) = some (key, value) := by
    rw [← statement?_eq_some_iff, statement?, if_neg hspeaks] at h
    exact h
  rw [applyLines]
  simp only [if_neg hspeaks, hstated]

theorem applyLines_of_faulty (h : Faulty raw) (s : Settings) (n : Nat) (rest : List (List Char)) :
    s.applyLines n (raw :: rest) = .error (faultAt n raw) := by
  obtain ⟨hspeaks, hnone⟩ := faulty_iff.1 h
  rw [← Bool.not_eq_true] at hspeaks
  rw [applyLines]
  simp only [if_neg hspeaks, hnone, faultAt]

/-- A line that does not count is passed over. -/
theorem applyLines_of_idle (h : Idle raw) (s : Settings) (n : Nat) (rest : List (List Char)) :
    s.applyLines n (raw :: rest) = s.applyLines (n + 1) rest := by
  rcases h with hsilent | ⟨key, value, hstates, hunknown⟩
  · exact applyLines_of_not_speaks hsilent s n rest
  · rw [applyLines_of_states hstates, apply_eq, each_assign_of_notMem hunknown]

end Lines

/-- Lines that can all be read set what they say. -/
theorem applyLines_eq_ok {lines : List (List Char)} (h : ∀ raw ∈ lines, ¬Faulty raw) (s : Settings)
    (n : Nat) : s.applyLines n lines = .ok (s.each (Setting.overwrite lines)) := by
  induction lines generalizing s n with
  | nil => rfl
  | cons raw rest ih =>
    obtain ⟨hraw, hrest⟩ := List.forall_mem_cons.1 h
    rcases line_cases raw with hsilent | hfaulty | ⟨key, value, hstates⟩
    · rw [applyLines_of_not_speaks hsilent, ih hrest]
      refine congrArg _ (each_congr (fun setting x => ?_) s)
      have hnone : value? setting.key raw = none :=
        value?_eq_none_iff.2 fun _ hstates => hsilent hstates.1
      rw [Setting.overwrite_cons, hnone, Option.elim_none]
    · exact absurd hfaulty hraw
    · rw [applyLines_of_states hstates, ih hrest, apply_eq, each_each]
      refine congrArg _ (each_congr (fun setting x => ?_) s)
      have hvalue : value? setting.key raw = if key = setting.key then some value else none := by
        rw [value?, statement?_eq_some_iff.2 hstates, Option.bind_some]
      rw [Setting.overwrite_cons, hvalue, Setting.assign]
      split <;> rfl

/-- Lines up to the first that cannot be read make no difference to the failure. -/
theorem applyLines_eq_error {lines : List (List Char)} {k : Nat} {raw : List Char}
    (h : FirstFaulty lines k raw) (s : Settings) (n : Nat) :
    s.applyLines n lines = .error (faultAt (n + k) raw) := by
  induction lines generalizing s n k with
  | nil => exact absurd h.here (by simp)
  | cons first rest ih =>
    cases k with
    | zero =>
      obtain rfl : first = raw := by simpa using h.here
      exact applyLines_of_faulty h.faulty s n rest
    | succ k =>
      have hlater : FirstFaulty rest k raw :=
        ⟨by simpa using h.here, h.faulty, fun m hm other hother =>
          h.first (m + 1) (by omega) other (by simpa using hother)⟩
      have hnumber : n + (k + 1) = n + 1 + k := by omega
      rw [hnumber]
      rcases line_cases first with hsilent | hfaulty | ⟨key, value, hstates⟩
      · rw [applyLines_of_not_speaks hsilent, ih hlater]
      · exact absurd hfaulty (h.first 0 (by omega) first rfl)
      · rw [applyLines_of_states hstates, ih hlater]

theorem exists_firstFaulty {lines : List (List Char)} (h : ∃ raw ∈ lines, Faulty raw) :
    ∃ n raw, FirstFaulty lines n raw := by
  induction lines with
  | nil => simp at h
  | cons first rest ih =>
    by_cases hfirst : Faulty first
    · exact ⟨0, first, rfl, hfirst, nofun⟩
    · obtain ⟨raw, hmem, hfaulty⟩ := h
      have hrest : raw ∈ rest := (List.mem_cons.1 hmem).resolve_left fun heq =>
        hfirst (heq ▸ hfaulty)
      obtain ⟨n, bad, hhere, hbad, hbefore⟩ := ih ⟨raw, hrest, hfaulty⟩
      refine ⟨n + 1, bad, by simpa using hhere, hbad, fun m hm other hother => ?_⟩
      cases m with
      | zero => exact (Option.some.inj hother) ▸ hfirst
      | succ m => exact hbefore m (by omega) other (by simpa using hother)

theorem applyLines_append (s : Settings) (n : Nat) (front back : List (List Char)) :
    s.applyLines n (front ++ back) =
      (s.applyLines n front).bind fun t => t.applyLines (n + front.length) back := by
  induction front generalizing s n with
  | nil => rfl
  | cons raw front ih =>
    have hnumber : n + (raw :: front).length = n + 1 + front.length := by
      rw [List.length_cons]
      omega
    rw [List.cons_append, hnumber]
    rcases line_cases raw with hsilent | hfaulty | ⟨key, value, hstates⟩
    · rw [applyLines_of_not_speaks hsilent, applyLines_of_not_speaks hsilent, ih]
    · rw [applyLines_of_faulty hfaulty, applyLines_of_faulty hfaulty]
      rfl
    · rw [applyLines_of_states hstates, applyLines_of_states hstates, ih]

/-- Lines for different keys may change places. -/
theorem applyLines_swap {raw raw' : List Char} {key key' : String} {value value' : List Char}
    (hraw : States raw key value) (hraw' : States raw' key' value') (hne : key ≠ key')
    (s : Settings) (n : Nat) (front back : List (List Char)) :
    s.applyLines n (front ++ raw' :: raw :: back) =
      s.applyLines n (front ++ raw :: raw' :: back) := by
  rw [applyLines_append, applyLines_append]
  refine congrArg _ (funext fun t => ?_)
  rw [applyLines_of_states hraw', applyLines_of_states hraw, applyLines_of_states hraw,
    applyLines_of_states hraw', apply_comm hne]

/-- The numbers of lines make no difference to settings. -/
theorem applyLines_eq_ok_congr {s t : Settings} {n : Nat} {lines : List (List Char)} (m : Nat)
    (h : s.applyLines n lines = .ok t) : s.applyLines m lines = .ok t := by
  have hreadable : ∀ raw ∈ lines, ¬Faulty raw := by
    intro raw hraw hfaulty
    obtain ⟨k, bad, hbad⟩ := exists_firstFaulty ⟨raw, hraw, hfaulty⟩
    rw [applyLines_eq_error hbad] at h
    cases h
  rw [applyLines_eq_ok hreadable] at h ⊢
  exact h

/-- A line that does not count may stand anywhere. -/
theorem applyLines_insert {raw : List Char} (hraw : Idle raw) {s t : Settings} {n : Nat}
    {front back : List (List Char)} :
    s.applyLines n (front ++ raw :: back) = .ok t ↔ s.applyLines n (front ++ back) = .ok t := by
  rw [applyLines_append, applyLines_append]
  cases s.applyLines n front with
  | error fault => exact Iff.rfl
  | ok u =>
    change u.applyLines _ (raw :: back) = .ok t ↔ u.applyLines _ back = .ok t
    rw [applyLines_of_idle hraw]
    exact ⟨applyLines_eq_ok_congr _, applyLines_eq_ok_congr _⟩

theorem not_faulty_of_idle {raw : List Char} (h : Idle raw) : ¬Faulty raw := by
  rcases h with hsilent | ⟨key, value, hstates, -⟩
  · exact fun hfaulty => hsilent hfaulty.1
  · exact not_faulty_of_states hstates

/-- Behind a line that does not count, lines have the next number. -/
theorem FirstFaulty.insert {front back : List (List Char)} {raw bad : List Char} {k : Nat}
    (h : FirstFaulty (front ++ back) k bad) (hraw : Idle raw) :
    FirstFaulty (front ++ raw :: back) (if k < front.length then k else k + 1) bad := by
  have hbefore {m : Nat} (hm : m < front.length) :
      (front ++ raw :: back)[m]? = (front ++ back)[m]? := by
    rw [List.getElem?_append_left hm, List.getElem?_append_left hm]
  have hbehind {m : Nat} (hm : front.length ≤ m) :
      (front ++ raw :: back)[m + 1]? = (front ++ back)[m]? := by
    rw [List.getElem?_append_right (by omega), List.getElem?_append_right hm,
      Nat.sub_add_comm hm, List.getElem?_cons_succ]
  have hplace : (front ++ raw :: back)[front.length]? = some raw := by simp
  refine ⟨?_, h.faulty, fun m hm other hother => ?_⟩
  · split
    · next hk => rw [hbefore hk, h.here]
    · next hk => rw [hbehind (by omega), h.here]
  · rcases Nat.lt_trichotomy m front.length with hlt | rfl | hgt
    · rw [hbefore hlt] at hother
      exact h.first m (by split at hm <;> omega) other hother
    · rw [hplace] at hother
      exact Option.some.inj hother ▸ not_faulty_of_idle hraw
    · obtain ⟨m, rfl⟩ := Nat.exists_eq_add_one_of_ne_zero (Nat.ne_zero_of_lt hgt)
      rw [hbehind (by omega)] at hother
      exact h.first m (by split at hm <;> omega) other hother

/-! ### Whole files -/

theorem Stated.tick_ne_zero {lines : List (List Char)} {s : Settings} (h : Stated lines s) :
    s.tick ≠ 0 := by
  rcases h.tick with ⟨cs, -, htick⟩ | ⟨-, htick⟩
  · rw [htick, Setting.value]
    cases hread : Setting.tick.read? cs with
    | none => decide
    | some time =>
      have hpositive := (Option.filter_eq_some_iff.1 hread).2
      exact Nat.ne_of_gt (of_decide_eq_true hpositive)
  · rw [htick]
    decide

/-- **What the content of a file gives.**

* It fails exactly if some line says something but has no equals sign, and names the first such
  line.
* Otherwise each setting is what the last line for its key says, and a tick takes some time.
* Adjacent lines for different keys may change places.
* A blank line, a comment or a line for an unknown key may be put in anywhere: the settings are the
  same, and if there is a failure it names the same line, by the number that it then has. -/
theorem parse_spec (content : String) :
    let lines := Text.lines content.toList
    ((∃ raw ∈ lines, Faulty raw) →
      ∃ n raw, FirstFaulty lines n raw ∧ parse content = .error (faultAt (n + 1) raw)) ∧
    ((∀ raw ∈ lines, ¬Faulty raw) →
      ∃ s, parse content = .ok s ∧ (∀ t, Stated lines t ↔ t = s) ∧ s.tick ≠ 0) ∧
    (∀ front raw raw' back key key' value value', lines = front ++ raw :: raw' :: back →
      States raw key value → States raw' key' value' → key ≠ key' →
      ∀ content' : String, Text.lines content'.toList = front ++ raw' :: raw :: back →
        parse content' = parse content) ∧
    ∀ front raw back, lines = front ++ back → Idle raw →
      ∀ content' : String, Text.lines content'.toList = front ++ raw :: back →
        (∀ s, parse content' = .ok s ↔ parse content = .ok s) ∧
        ∀ n bad, FirstFaulty lines n bad → parse content = .error (faultAt (n + 1) bad) ∧
          parse content' = .error (faultAt ((if n < front.length then n else n + 1) + 1) bad) := by
  intro lines
  have hparse (content : String) :
      parse content = standard.applyLines 1 (Text.lines content.toList) :=
    rfl
  have herror {n : Nat} {raw : List Char} {content : String}
      (h : FirstFaulty (Text.lines content.toList) n raw) :
      parse content = .error (faultAt (n + 1) raw) := by
    rw [hparse, applyLines_eq_error h, Nat.add_comm]
  refine ⟨fun hfaulty => ?_, fun hreadable => ?_, ?_, ?_⟩
  · obtain ⟨n, raw, hfirst⟩ := exists_firstFaulty hfaulty
    exact ⟨n, raw, hfirst, herror hfirst⟩
  · exact ⟨_, (hparse content).trans (applyLines_eq_ok hreadable standard 1),
      fun t => stated_iff, (stated_iff.2 rfl).tick_ne_zero⟩
  · intro front raw raw' back key key' value value' hlines hraw hraw' hne content' hlines'
    rw [hparse, hparse, hlines', applyLines_swap hraw hraw' hne, ← hlines]
  · intro front raw back hlines hraw content' hlines'
    refine ⟨fun s => ?_, fun n bad hbad => ⟨herror hbad, herror ?_⟩⟩
    · rw [hparse, hparse, hlines', applyLines_insert hraw, ← hlines]
    · rw [hlines']
      exact (hlines ▸ hbad : FirstFaulty (front ++ back) n bad).insert hraw

/-- Two lines in either order, and a comment between them. -/
theorem parse_spec_reordered :
    let content := "TICK_MILLIS = 20\nverbosity = high"
    States "TICK_MILLIS = 20".toList "tick_millis" "20".toList ∧
      States "verbosity = high".toList "verbosity" "high".toList ∧ Idle "# fast".toList ∧
      parse "verbosity = high\nTICK_MILLIS = 20" = parse content ∧
      ∀ s, parse "TICK_MILLIS = 20\n# fast\nverbosity = high" = .ok s ↔ parse content = .ok s := by
  intro content
  have hlines : Text.lines content.toList =
      ["TICK_MILLIS = 20".toList, "verbosity = high".toList] := by decide +kernel
  have htick : States "TICK_MILLIS = 20".toList "tick_millis" "20".toList :=
    statement?_eq_some_iff.1 (by decide +kernel)
  have hverbosity : States "verbosity = high".toList "verbosity" "high".toList :=
    statement?_eq_some_iff.1 (by decide +kernel)
  have hidle : Idle "# fast".toList :=
    .inl fun hspeaks => by
      have hloud := isSilent_eq_false_iff.2 hspeaks
      exact absurd hloud (by decide +kernel)
  obtain ⟨-, -, hswap, hinsert⟩ := parse_spec content
  exact ⟨htick, hverbosity, hidle,
    hswap [] _ _ [] _ _ _ _ hlines htick hverbosity (by decide) _ (by decide +kernel),
    (hinsert ["TICK_MILLIS = 20".toList] _ _ hlines hidle _ (by decide +kernel)).1⟩

end TriggerScript.Settings
