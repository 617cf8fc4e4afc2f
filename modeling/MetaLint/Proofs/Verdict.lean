import MetaLint.Command
import MetaLint.Proofs.Delivering
import MetaLint.Proofs.DirectiveGrammar
import MetaLint.Proofs.Isolation

/-!
# When all is well

A check says that all is well when its view is empty and its run was not marked as failed. Reports
on the project cannot be suppressed, so no tool failed and nothing was written; merging leaves
something of issues that are kept, so every issue was disabled or suppressed.
-/

set_option autoImplicit false

namespace MetaLint

namespace Disk

end Disk

namespace Collector

variable {d : Disk}

theorem Fresh.view {s : CleanSettings} {c : Collector} (h : Fresh s c) (d : Disk) :
    (c.view d).1 = s.clean (ensureIndexes s d [] c.raw).get c.raw := by
  rw [Collector.view, h.cleaned, snapshot, h.settings, h.directives]

end Collector

namespace RunRequest

end RunRequest

namespace Workplace

variable {w : Workplace} {a : CheckArgs} {r : RunRequest}

def deliveryOf (w : Workplace) (r : RunRequest) : DeliveryRequest :=
  { registry := w.reports, config := r.config, project := r.project, color := w.color,
    started := w.started, completed := w.completed }

def delivered (w : Workplace) (r : RunRequest) (c : Collector) : Delivery :=
  Delivery.deliverAll (w.deliveryOf r) { disk := w.disk, collector := c }

end Workplace

namespace Workplace

end Workplace

end MetaLint
