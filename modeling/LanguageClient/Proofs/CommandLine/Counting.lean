import LanguageClient.Proofs.CommandLine.Output
import LanguageClient.Proofs.Document.Respelling

set_option autoImplicit false

namespace LanguageClient

namespace Session

theorem documentSymbols_not_overflowed {id : Id} {language : Language} {read : FileReader}
    {path : Path} {turns : List Turn} {site : Site} :
    ¬ (documentSymbols id language read path).run.Yields turns (.error (.overflowed site)) := by
  have mapped {α error : Type} {outcome : Except error α} {change : error → Abort}
      (failing : ∀ reason, change reason ≠ .overflowed site) :
      Except.error (Abort.overflowed site) ≠ outcome.mapError change := by
    intro same
    cases outcome with
    | error reason => exact failing reason (Except.error.inj same).symm
    | ok value => cases same
  unfold documentSymbols
  simp only [yields_ofResult_bind_iff, yields_tell_bind_iff, yields_lift_bind_iff,
    yields_ofResult_iff]
  intro yields
  rcases yields with ⟨abort, unread, -, same⟩ | ⟨text, -, opening⟩
  · rw [← Except.error.inj same] at unread
    exact mapped (fun _ => Abort.noConfusion) unread.symm
  rcases opening with ⟨error, -, same⟩ | ⟨asking, -, begun, outcome, rest, -, -, closing⟩
  · cases same
  rcases closing with ⟨error, -, same⟩ | ⟨last, -, -, same⟩
  · cases same
  · exact mapped (fun _ => Abort.noConfusion) same

end Session

namespace Inquiry

open LanguageClient.Symbol

theorem ok_ne_failed (failure : Failure) :
    (.ok () : Except Abort Unit) ≠ .error (.failed failure) := by
  intro same
  cases same

theorem overflowed_ne_failed (site : Site) (failure : Failure) :
    (.error (.overflowed site) : Except Abort Unit) ≠ .error (.failed failure) := by
  intro same
  cases same

def Accepts (ids : Ids) (language : Language) (root file : Path) (read : FileReader)
    (forest : List Symbol) (begun : List Turn) : Prop :=
  ∃ content value, read (Path.join root file) = .ok content ∧
    Call.ListOf Symbol.Denotes value forest ∧
    begun = Session.examining ids.question language (Path.join root file) content value

section

variable {ids : Ids} {language : Language} {root file : Path} {read : FileReader}
  {capabilities : Json} {name : String} {turns : List Turn} {result : Except Abort Unit}

theorem yields_documentSymbols_iff_accepts {forest : List Symbol} :
    (Session.documentSymbols ids.question language read (Path.join root file)).run.Yields turns
        (.ok forest) ↔ Accepts ids language root file read forest turns :=
  Session.yields_documentSymbols_ok_iff

/-- Nothing is printed but accepted symbols, unless the inquiry fails. -/
theorem yields_symbols_iff_prints (unfailed : ∀ failure, result ≠ .error (.failed failure)) :
    ((symbols file).answer ids language root read capabilities).run.Yields turns result ↔
      ∃ forest begun rest, turns = begun ++ rest ∧
        Accepts ids language root file read forest begun ∧ PrintsSymbols forest rest result := by
  rw [yields_symbols_iff]
  simp only [yields_documentSymbols_iff_accepts]
  constructor
  · intro yields
    rcases yields with ⟨abort, ended, same⟩ | printing
    · cases abort with
      | failed failure => exact absurd same (unfailed failure)
      | overflowed site => exact absurd ended Session.documentSymbols_not_overflowed
    · exact printing
  · exact Or.inr

theorem yields_references_iff_prints (unfailed : ∀ failure, result ≠ .error (.failed failure)) :
    ((references file name).answer ids language root read capabilities).run.Yields turns result ↔
      ∃ forest begun place symbol value locations rest,
        Accepts ids language root file read forest begun ∧
        FirstNamed name forest place symbol ∧ Call.ListOf Location.Denotes value locations ∧
        turns = begun ++
          .asked (.references ids.references symbol (uri root file)) (.ok value) :: rest ∧
        PrintsLocations locations rest result := by
  rw [yields_references_iff]
  simp only [yields_documentSymbols_iff_accepts]
  constructor
  · intro yields
    rcases yields with ⟨abort, ended, same⟩ | ⟨forest, begun, later, split, accepts, refers⟩
    · cases abort with
      | failed failure => exact absurd same (unfailed failure)
      | overflowed site => exact absurd ended Session.documentSymbols_not_overflowed
    · cases refers with
      | unnamed none => exact absurd rfl (unfailed _)
      | refused first typed => exact absurd rfl (unfailed _)
      | found first typed prints =>
        obtain ⟨value, answered, isList⟩ := Call.typed_ok_iff.mp typed
        rw [answered] at split
        exact ⟨forest, begun, _, _, value, _, _, accepts, first, isList, split, prints⟩
  · intro ⟨forest, begun, place, symbol, value, locations, rest, accepts, first, isList, split,
      prints⟩
    exact Or.inr ⟨forest, begun, _, split, accepts, .found first (.list isList) prints⟩

end

end Inquiry

end LanguageClient
