import Mathlib.Data.List.Induction
import Playground.Engine.Session

/-! What runs do to the preview. `step` says what one call comes to: an accepted document or
stylesheet is shown and counted, and every other call leaves the preview alone. Main statement: after
any calls the preview shows the last accepted ones, and a call for it succeeds exactly where it is
accepted. -/
namespace Playground.Engine

structure Call where
  source : String
  name : String
  stdin : Option String := none
  deriving DecidableEq, Repr

namespace Call

def runOn (call : Call) (c : Collaborators W H) (s : Session W H) : Report × Session W H :=
  (run c call.source call.name call.stdin).run s

def sessionAfter (c : Collaborators W H) (s : Session W H) (calls : List Call) : Session W H :=
  calls.foldl (fun s call => (call.runOn c s).2) s

def Accepted (limit : Nat) (language : Language) (call : Call) : Prop :=
  Language.parse? call.name = some language ∧ Text.isBlankString call.source = false ∧
    call.source.utf8ByteSize ≤ limit
instance (limit language call) : Decidable (Accepted limit language call) :=
  inferInstanceAs (Decidable (_ ∧ _ ∧ _))

def Shows (call : Call) : Prop :=
  Language.parse? call.name = some .html ∨ Language.parse? call.name = some .css

def opened (preview : Preview) (source : String) : Preview :=
  { preview with document := some source, documentsOpened := preview.documentsOpened + 1 }

def styled (preview : Preview) (source : String) : Preview :=
  { preview with stylesheet := some source, stylesheetsApplied := preview.stylesheetsApplied + 1 }

def step (preview : Preview) (call : Call) : Preview :=
  if Accepted preview.limit .html call then opened preview call.source
  else if Accepted preview.limit .css call then styled preview call.source
  else preview

def shown (limit : Nat) (calls : List Call) : Preview where
  limit
  document := (calls.filter (Accepted limit .html)).getLast?.map source
  stylesheet := (calls.filter (Accepted limit .css)).getLast?.map source
  documentsOpened := calls.countP (Accepted limit .html)
  stylesheetsApplied := calls.countP (Accepted limit .css)

end Call

def KeepsPreview (act : Run W H α) : Prop := ∀ s, (act.run s).2.preview = s.preview

theorem pureKeeps (a : α) : KeepsPreview (pure a : Run W H α) := fun _ => rfl

theorem worldKeeps (act : StateM W α) : KeepsPreview (inWorld act : Run W H α) := fun _ => rfl

theorem ensureKeeps (c : Collaborators W H) : KeepsPreview (ensureReady c) := fun _ => rfl

theorem bindKeeps {act : Run W H α} {next : α → Run W H β} (first : KeepsPreview act)
    (rest : ∀ a, KeepsPreview (next a)) : KeepsPreview (act >>= next) := by
  intro s
  rw [StateT.run_bind]
  exact (rest _ _).trans (first s)

theorem scriptKeeps (c : Collaborators W H) (request : Submission) : KeepsPreview (runScript c request) :=
  bindKeeps (worldKeeps _) fun _ => pureKeeps _

theorem checkedKeeps (c : Collaborators W H) (request : Submission) : KeepsPreview (runChecked c request) := by
  unfold runChecked
  split
  · exact pureKeeps _
  · split
    · exact worldKeeps _
    · exact pureKeeps _

theorem interpretedKeeps (c : Collaborators W H) (request : Submission) :
    KeepsPreview (runInterpreted c request) := by
  refine bindKeeps (ensureKeeps c) fun answer => ?_
  split
  · split
    · exact bindKeeps (worldKeeps _) fun _ => pureKeeps _
    · exact pureKeeps _
  · exact bindKeeps (worldKeeps _) fun _ => pureKeeps _

theorem strategyKeeps (c : Collaborators W H) {request : Submission} (document : request.language ≠ .html)
    (stylesheet : request.language ≠ .css) : KeepsPreview (runStrategy c request) := by
  unfold runStrategy
  cases language : request.language with
  | javaScript => exact scriptKeeps c request
  | python => exact interpretedKeeps c request
  | java => exact checkedKeeps c request
  | cpp => exact checkedKeeps c request
  | html => exact absurd language document
  | css => exact absurd language stylesheet
  | json => simp only [Strategy.ofLanguage,runPassive,language]; exact pureKeeps _
  | sql => simp only [Strategy.ofLanguage,runPassive,language]; exact pureKeeps _

theorem taggedKeeps (c : Collaborators W H) {request : Submission} (document : request.language ≠ .html)
    (stylesheet : request.language ≠ .css) : KeepsPreview (runTagged c request) :=
  bindKeeps (strategyKeeps c document stylesheet) fun _ => pureKeeps _

theorem requestKeeps (c : Collaborators W H) {request : Submission} (document : request.language ≠ .html)
    (stylesheet : request.language ≠ .css) : KeepsPreview (runRequest c request) := by
  unfold runRequest
  split
  · exact pureKeeps _
  · split
    · split
      · exact pureKeeps _
      · exact bindKeeps (worldKeeps _) fun stdin => taggedKeeps c document stylesheet
    · exact taggedKeeps c document stylesheet

namespace Call

def taking (preview : Preview) : Markup → String → Preview
  | .document => opened preview
  | .stylesheet => styled preview

theorem takenWithin {preview : Preview} {source : String} (fits : source.utf8ByteSize ≤ preview.limit)
    (markup : Markup) : Surface.take markup source preview = (.ok (),taking preview markup source) := by
  have checked (kind : String) : preview.checkSize kind source = .ok () := if_pos fits
  cases markup with
  | document =>
    simp only [Surface.take,Preview.accept,Preview.openDocument,checked]
    rfl
  | stylesheet =>
    simp only [Surface.take,Preview.accept,Preview.applyStylesheet,checked]
    rfl

theorem refusedBeyond {preview : Preview} {source : String} (exceeds : ¬ source.utf8ByteSize ≤ preview.limit)
    (markup : Markup) : ∃ fault, Surface.take markup source preview = (.error fault,preview) := by
  have checked (kind : String) : ∃ fault, preview.checkSize kind source = .error fault := ⟨_,if_neg exceeds⟩
  cases markup with
  | document =>
    obtain ⟨fault,checked⟩ := checked "document"
    simp only [Surface.take,Preview.accept,Preview.openDocument,checked]
    exact ⟨fault,rfl⟩
  | stylesheet =>
    obtain ⟨fault,checked⟩ := checked "stylesheet"
    simp only [Surface.take,Preview.accept,Preview.applyStylesheet,checked]
    exact ⟨fault,rfl⟩

theorem markupLeaves (markup : Markup) (source : String) (s : Session W H) :
    let shown := (runMarkup markup source).run s
    (shown.1.status = .success ↔ source.utf8ByteSize ≤ s.preview.limit) ∧
    shown.2.preview = if source.utf8ByteSize ≤ s.preview.limit then taking s.preview markup source else s.preview := by
  have ran : (runMarkup markup source).run s = (markupReport markup (Surface.take markup source s.preview).1,
      { s with preview := (Surface.take markup source s.preview).2 }) := rfl
  rw [ran]
  by_cases fits : source.utf8ByteSize ≤ s.preview.limit
  · rw [takenWithin fits,if_pos fits]
    exact ⟨iff_of_true rfl fits,rfl⟩
  · obtain ⟨fault,refused⟩ := refusedBeyond fits markup
    rw [refused,if_neg fits]
    exact ⟨iff_of_false Status.noConfusion fits,rfl⟩

theorem markupRuns (c : Collaborators W H) (s : Session W H) {call : Call} {language : Language} {markup : Markup}
    (parsed : Language.parse? call.name = some language) (quiet : InputUse.patterns language = [])
    (handed : (runStrategy c ⟨call.source,language,call.stdin⟩ : Run W H Report) = runMarkup markup call.source) :
    (call.runOn c s).2.preview =
      (if call.Accepted s.preview.limit language then taking s.preview markup call.source else s.preview) ∧
    ((call.runOn c s).1.status = .success ↔ call.Accepted s.preview.limit language) := by
  have complete : lacksInput c ⟨call.source,language,call.stdin⟩ = false := by
    simp [lacksInput,InputUse.needsInput,quiet,Text.occurs]
  unfold runOn run
  simp only [parsed,runRequest,complete]
  cases blank : Text.isBlankString call.source with
  | true =>
    have refused : ¬ call.Accepted s.preview.limit language := fun accepted => by
      rw [accepted.2.1] at blank
      contradiction
    rw [if_neg refused]
    exact ⟨rfl,iff_of_false Status.noConfusion refused⟩
  | false =>
    have fits : call.Accepted s.preview.limit language ↔ call.source.utf8ByteSize ≤ s.preview.limit :=
      ⟨fun accepted => accepted.2.2,fun fits => ⟨parsed,blank,fits⟩⟩
    have ran : (runTagged c ⟨call.source,language,call.stdin⟩).run s =
        (((runMarkup markup call.source).run s).1
          |>.withMetadata strategyKey (.string (Strategy.ofLanguage language).name)
          |>.withMetadata languageKey (.string language.id),((runMarkup markup call.source).run s).2) := by
      unfold runTagged
      rw [handed]
      rfl
    obtain ⟨succeeds,leaves⟩ := markupLeaves markup call.source s
    rw [if_neg Bool.false_ne_true,if_neg Bool.false_ne_true,ran]
    simp only [fits]
    exact ⟨leaves,succeeds⟩

theorem otherRuns (c : Collaborators W H) (s : Session W H) {call : Call} (other : ¬ call.Shows) :
    (call.runOn c s).2.preview = s.preview := by
  unfold runOn run
  cases parsed : Language.parse? call.name with
  | none => rfl
  | some language =>
    let request : Submission := ⟨call.source,language,call.stdin⟩
    have keeps (document : language ≠ .html) (stylesheet : language ≠ .css) : KeepsPreview (runRequest c request) :=
      requestKeeps c document stylesheet
    refine keeps ?_ ?_ s
    · rintro rfl
      exact other (.inl parsed)
    · rintro rfl
      exact other (.inr parsed)

theorem acceptedOnce {call : Call} {limit : Nat} {language other : Language} (different : language ≠ other)
    (parsed : Language.parse? call.name = some language) : ¬ call.Accepted limit other := fun accepted =>
  different (Option.some.inj (parsed.symm.trans accepted.1))

theorem stepUnaccepted {call : Call} {preview : Preview} (html : ¬ call.Accepted preview.limit .html)
    (css : ¬ call.Accepted preview.limit .css) : call.step preview = preview := by
  rw [step,if_neg html,if_neg css]

theorem stepRuns (c : Collaborators W H) (s : Session W H) (call : Call) :
    (call.runOn c s).2.preview = call.step s.preview ∧
    (call.Shows → ((call.runOn c s).1.status = .success ↔
      call.Accepted s.preview.limit .html ∨ call.Accepted s.preview.limit .css)) := by
  by_cases html : Language.parse? call.name = some .html
  · obtain ⟨preview,succeeds⟩ := markupRuns c s html rfl rfl
    have other : ¬ call.Accepted s.preview.limit .css := acceptedOnce (by decide) html
    rw [step,if_neg other,or_iff_left other]
    exact ⟨preview,fun _ => succeeds⟩
  · have document : ¬ call.Accepted s.preview.limit .html := fun accepted => html accepted.1
    by_cases css : Language.parse? call.name = some .css
    · obtain ⟨preview,succeeds⟩ := markupRuns c s css rfl rfl
      rw [step,if_neg document,or_iff_right document]
      exact ⟨preview,fun _ => succeeds⟩
    · have stylesheet : ¬ call.Accepted s.preview.limit .css := fun accepted => css accepted.1
      have other : ¬ call.Shows := fun shows => shows.elim html css
      rw [stepUnaccepted document stylesheet]
      exact ⟨otherRuns c s other,fun shows => absurd shows other⟩

theorem shownStep (limit : Nat) (calls : List Call) (call : Call) :
    call.step (shown limit calls) = shown limit (calls ++ [call]) := by
  have within : (shown limit calls).limit = limit := rfl
  rw [step,within]
  by_cases html : call.Accepted limit .html
  · have other : ¬ call.Accepted limit .css := acceptedOnce (by decide) html.1
    simp [shown,opened,html,other]
  · by_cases css : call.Accepted limit .css
    · simp [shown,styled,html,css]
    · simp [shown,html,css]

theorem sessionShows (c : Collaborators W H) {s : Session W H} {limit : Nat}
    (fresh : s.preview = .ofLimit limit) (calls : List Call) :
    (sessionAfter c s calls).preview = shown limit calls := by
  induction calls using List.reverseRecOn with
  | nil => exact fresh
  | append_singleton calls call ih =>
    have last : sessionAfter c s (calls ++ [call]) = (call.runOn c (sessionAfter c s calls)).2 := by
      simp [sessionAfter]
    rw [last,(stepRuns c _ call).1,ih,shownStep]

/- Over any calls of an engine with an empty preview, and for any call behind them. -/
theorem previewShowsLastAccepted (c : Collaborators W H) (lifecycle : Interpreter.Lifecycle H) (world : W)
    (limit : Nat) (calls : List Call) (call : Call) :
    let before := sessionAfter c { lifecycle, preview := .ofLimit limit, world } calls
    let result := call.runOn c before
    before.preview.document = (calls.filter (Accepted limit .html)).getLast?.map source ∧
    before.preview.stylesheet = (calls.filter (Accepted limit .css)).getLast?.map source ∧
    before.preview.documentsOpened = calls.countP (Accepted limit .html) ∧
    before.preview.stylesheetsApplied = calls.countP (Accepted limit .css) ∧
    (call.Shows → (result.1.status = .success ↔ call.Accepted limit .html ∨ call.Accepted limit .css)) ∧
    (¬ call.Accepted limit .html → ¬ call.Accepted limit .css → result.2.preview = before.preview) := by
  intro before result
  have shows : before.preview = shown limit calls := sessionShows c rfl calls
  have within : before.preview.limit = limit := by rw [shows,shown]
  obtain ⟨left,succeeds⟩ := stepRuns c before call
  rw [within] at succeeds
  refine ⟨by rw [shows,shown],by rw [shows,shown],by rw [shows,shown],by rw [shows,shown],succeeds,
    fun html css => left.trans (stepUnaccepted ?_ ?_)⟩
  · rw [within]
    exact html
  · rw [within]
    exact css

end Call
end Playground.Engine
