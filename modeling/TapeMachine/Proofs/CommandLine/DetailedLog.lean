import TapeMachine.CommandLine.Settings

/-!
# Asking for a detailed log

The switch for a detailed log, put before other arguments, changes one setting and no other: every
argument behind it is taken as before, and so are the faults of the arguments.
-/

set_option autoImplicit false

namespace TapeMachine.CommandLine

def Draft.detailed (draft : Draft) : Draft := { draft with debug := true }

def Settings.detailed (settings : Settings) : Settings := { settings with debug := true }

namespace Draft

theorem apply_detailed (draft : Draft) (switch : Switch) (value : String) :
    draft.detailed.apply switch value = (draft.apply switch value).map detailed := by
  cases switch with
  | help | extensible | debug => rfl
  | cells =>
      change (number .cells value).bind _ = ((number .cells value).bind _).map _
      cases number .cells value with
      | error stop => rfl
      | ok cells => rfl
  | cellBits =>
      change (number .cellBits value).bind _ = ((number .cellBits value).bind _).map _
      cases number .cellBits value with
      | error stop => rfl
      | ok bits =>
          change (checkBits bits).bind _ = ((checkBits bits).bind _).map _
          cases checkBits bits with
          | error stop => rfl
          | ok bits => rfl

theorem applyFlags_detailed (flags : List Switch) (draft : Draft) :
    draft.detailed.applyFlags flags = (draft.applyFlags flags).map detailed := by
  induction flags generalizing draft with
  | nil => rfl
  | cons flag rest ih =>
      rw [applyFlags, applyFlags, List.foldlM_cons, List.foldlM_cons, apply_detailed]
      cases draft.apply flag "" with
      | error stop => rfl
      | ok next => exact ih next

theorem applyTo_detailed (draft : Draft) (bundle : Bundle) (value : String) :
    bundle.applyTo draft.detailed value = (bundle.applyTo draft value).map detailed := by
  rw [Bundle.applyTo, Bundle.applyTo, applyFlags_detailed]
  cases draft.applyFlags bundle.flags with
  | error stop => rfl
  | ok next =>
      cases bundle.last with
      | none => rfl
      | some entry => exact next.apply_detailed entry.1 _

/-- Arguments that are taken in the same way whether the log is asked for in detail or not. -/
def Indifferent (items : List Item) : Prop :=
  ∀ draft : Draft, consume items draft.detailed = (consume items draft).map detailed

namespace Indifferent

variable {waiting rest : List Item}

theorem bundle (indifferent : Indifferent rest) (draft : Draft) (bundle : Bundle)
    (value : String) :
    (bundle.applyTo draft.detailed value).bind (consume rest) =
      ((bundle.applyTo draft value).bind (consume rest)).map detailed := by
  rw [applyTo_detailed]
  cases bundle.applyTo draft value with
  | error stop => rfl
  | ok next => exact indifferent next

/-- Arguments behind a word, which is the name of the file if there is none yet. -/
theorem name (indifferent : Indifferent waiting) (indifferent' : Indifferent rest) (draft : Draft)
    (aside text : String) :
    (if draft.detailed.filename.isSome then consume waiting (draft.detailed.setAside aside)
      else consume rest { draft.detailed with filename := some text }) =
    (if draft.filename.isSome then consume waiting (draft.setAside aside)
      else consume rest { draft with filename := some text }).map detailed := by
  have same : draft.detailed.filename = draft.filename := rfl
  rw [same]
  split
  · exact indifferent (draft.setAside aside)
  · exact indifferent' { draft with filename := some text }

end Indifferent

/-- All arguments are.  The induction is on their number, since the one behind a word or a mark may
be looked at twice. -/
theorem indifferent (count : Nat) :
    ∀ items : List Item, items.length ≤ count → Indifferent items := by
  induction count with
  | zero =>
      intro items few draft
      obtain rfl := List.length_eq_zero_iff.mp (Nat.le_zero.mp few)
      rfl
  | succ count ih =>
      intro items few draft
      match items, few with
      | [], _ => rfl
      | .unknown text :: rest, few =>
          exact ih rest (Nat.le_of_succ_le_succ few) (draft.setAside text)
      | .known switch isShort attached :: rest, few =>
          have fewer := Nat.le_of_succ_le_succ few
          rw [consume.eq_def, consume.eq_def]
          simp only
          cases Bundle.ofItem switch isShort attached with
          | error fault => rfl
          | ok bundle =>
              simp only
              cases bundle.waiting? with
              | none => exact (ih rest fewer).bundle draft bundle ""
              | some waits =>
                  match rest, fewer with
                  | [], _ => rfl
                  | .word value :: rest, fewer =>
                      exact (ih rest (Nat.le_of_succ_le fewer)).bundle draft bundle value
                  | .unknown _ :: _, _ => rfl
                  | .known _ _ _ :: _, _ => rfl
                  | .mark :: _, _ => rfl
      | .word text :: rest, few =>
          have fewer := Nat.le_of_succ_le_succ few
          by_cases marked : ∃ more, rest = .mark :: more
          · obtain ⟨more, rfl⟩ := marked
            rw [consume, consume]
            exact (ih _ fewer).name (ih more (Nat.le_of_succ_le fewer)) draft text text
          · have unmarked : ∀ more, rest = .mark :: more → False :=
              fun more same => marked ⟨more, same⟩
            rw [consume, consume]
            · exact (ih rest fewer).name (ih rest fewer) draft text text
            · exact unmarked
            · exact unmarked
      | .mark :: rest, few =>
          have fewer := Nat.le_of_succ_le_succ few
          by_cases worded : ∃ text more, rest = .word text :: more
          · obtain ⟨text, more, rfl⟩ := worded
            have taken (draft : Draft) : consume (.mark :: .word text :: more) draft =
                if draft.filename.isSome then
                  consume (.word text :: more) (draft.setAside Item.markText)
                else consume more { draft with filename := some text } := rfl
            rw [taken, taken]
            exact (ih _ fewer).name (ih more (Nat.le_of_succ_le fewer)) draft Item.markText text
          · have wordless : ∀ text more, rest = .word text :: more → False :=
              fun text more same => worded ⟨text, more, same⟩
            rw [consume, consume]
            · exact ih rest fewer (draft.setAside Item.markText)
            · exact wordless
            · exact wordless

theorem finish_detailed (draft : Draft) :
    draft.detailed.finish = draft.finish.map Settings.detailed := by
  obtain ⟨filename, cells, extensible, cellBits, debug, unused⟩ := draft
  cases filename with
  | none => rfl
  | some filename =>
      cases unused with
      | nil => rfl
      | cons argument rest => rfl

end Draft

/-- The switch for a detailed log, before other arguments, asks for it and changes nothing else. -/
theorem Settings.parse_debug_cons (arguments : List String) :
    parse ("--debug" :: arguments) = (parse arguments).map detailed := by
  have sorted : Item.ofArguments ("--debug" :: arguments) =
      (Item.ofArguments arguments).map (.known .debug false none :: ·) := rfl
  change ((Item.ofArguments ("--debug" :: arguments)).mapError Stop.fault).bind _ =
    (((Item.ofArguments arguments).mapError Stop.fault).bind _).map detailed
  rw [sorted]
  cases Item.ofArguments arguments with
  | error fault => rfl
  | ok items =>
      change (Draft.consume items Draft.initial.detailed).bind Draft.finish =
        ((Draft.consume items Draft.initial).bind Draft.finish).map detailed
      rw [Draft.indifferent items.length items (Nat.le_refl _)]
      cases Draft.consume items Draft.initial with
      | error stop => rfl
      | ok draft => exact draft.finish_detailed

end TapeMachine.CommandLine
