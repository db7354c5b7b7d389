import MailSort.ClusterModel
import MailSort.Proofs.Outcome

/-! # Faults of models

Models know nothing of mailboxes, so none of their operations fails because a mailbox is
unknown.
-/

namespace MailSort

variable {name : Text}

theorem SegmentLength.ofNat?_ne_unknown (length : Nat) :
    ofNat? length ≠ .error (.unknownMailbox name) := by
  rw [ofNat?]
  split <;> nofun

variable [Compiler]

namespace TemplateModel

variable {least : SegmentLength} {budget : Nat}

theorem build_ne_unknown (log : ArrivalLog) :
    build log least budget ≠ .error (.unknownMailbox name) := by
  have never : (Template.ofSamples least budget log.samples).mapError Fault.rebuildFailed ≠
      .error (.unknownMailbox name) := by
    cases Template.ofSamples least budget log.samples <;> nofun
  exact Outcome.bind_ne_error never fun _ => nofun

theorem add_ne_unknown (model : TemplateModel) (samples : List Text) :
    model.add samples ≠ .error (.unknownMailbox name) := by
  rw [add]
  split
  · nofun
  · split
    · nofun
    · exact build_ne_unknown _

theorem remove_ne_unknown (model : TemplateModel) (samples : List Text) :
    model.remove samples ≠ .error (.unknownMailbox name) := by
  rw [remove]
  split
  · exact build_ne_unknown _
  · nofun

end TemplateModel

variable {α : Type} [Score α] {limits : ClusterLimits α}

namespace Bucket

theorem add_ne_unknown (bucket : Bucket) (sample : Text) :
    bucket.add limits sample ≠ .error (.unknownMailbox name) := by
  rw [add]
  split
  · exact Outcome.bind_ne_error (TemplateModel.build_ne_unknown _) fun _ => nofun
  · split
    · exact Outcome.bind_ne_error (TemplateModel.add_ne_unknown _ _) fun _ => nofun
    · exact Outcome.bind_ne_error (TemplateModel.build_ne_unknown _) fun _ => nofun

theorem ofSamples_ne_unknown (samples : List Text) (least : Nat) :
    ofSamples limits samples least ≠ .error (.unknownMailbox name) := by
  refine Outcome.bind_ne_error (SegmentLength.ofNat?_ne_unknown least) fun length => ?_
  refine Outcome.bind_ne_error ?_ (Outcome.foldlM_ne_error add_ne_unknown samples)
  exact Outcome.bind_ne_error (TemplateModel.build_ne_unknown _) fun _ => nofun

end Bucket

namespace ClusterModel

theorem build_ne_unknown (log : ArrivalLog) :
    build limits log ≠ .error (.unknownMailbox name) :=
  Outcome.bind_ne_error (Outcome.mapM_ne_error (Bucket.ofSamples_ne_unknown _) _) fun _ => nofun

theorem add_ne_unknown (model : ClusterModel α) (sample : Text) :
    model.add sample ≠ .error (.unknownMailbox name) := by
  rw [add]
  split
  · exact Outcome.bind_ne_error
      (Outcome.mapM_ne_error (fun bucket => bucket.add_ne_unknown sample) _) fun _ => nofun
  · exact build_ne_unknown _

theorem remove_ne_unknown (model : ClusterModel α) (sample : Text) :
    model.remove sample ≠ .error (.unknownMailbox name) := by
  rw [remove]
  split
  · exact build_ne_unknown _
  · nofun

end ClusterModel

end MailSort
