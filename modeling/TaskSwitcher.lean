import TaskSwitcher.Carousel.Lemmas
import TaskSwitcher.Main
import TaskSwitcher.Proofs.Carousel.Operations
import TaskSwitcher.Proofs.Session.Projection
import TaskSwitcher.Proofs.Switcher.Turnover
import TaskSwitcher.Proofs.Registry.Looks
import TaskSwitcher.Proofs.Switcher.Succession
import TaskSwitcher.Proofs.Carousel.Looks
import TaskSwitcher.Proofs.Switcher.Deeds
import TaskSwitcher.Proofs.Carousel.Pictures
import TaskSwitcher.Proofs.Switcher.Pictures
import TaskSwitcher.Proofs.Session.Delivery
import TaskSwitcher.Proofs.Switcher.Looks
import TaskSwitcher.Proofs.Session.Mirror
import TaskSwitcher.Proofs.Registry.Activation
import TaskSwitcher.Proofs.Session.Focus
import TaskSwitcher.Proofs.Switcher.Focus
import TaskSwitcher.Proofs.Session.Announced
import TaskSwitcher.Proofs.Registry.Orderly
import TaskSwitcher.Proofs.Session.Workload
import TaskSwitcher.Proofs.Carousel.Lineage
import TaskSwitcher.Proofs.Switcher.Happenings
import TaskSwitcher.Proofs.Switcher.Announcements
import TaskSwitcher.Proofs.Switcher.Handles
import TaskSwitcher.Proofs.Switcher.Outstanding
import TaskSwitcher.Proofs.Switcher.Traffic
import TaskSwitcher.Proofs.Scenario.Steps
import TaskSwitcher.Proofs.Switcher.Areas
import TaskSwitcher.Proofs.Session.Areas
import TaskSwitcher.Proofs.Carousel.Outlines
import TaskSwitcher.Proofs.Switcher.Congruence
import TaskSwitcher.Proofs.Switcher.Asides
import TaskSwitcher.Proofs.Service.Sweeps
import TaskSwitcher.Proofs.Form.Edits
import TaskSwitcher.Proofs.Form.Shapes
import TaskSwitcher.Proofs.Form.RoundTrip
import TaskSwitcher.Proofs.Carousel.Places
import TaskSwitcher.Proofs.Switcher.Placement
import TaskSwitcher.Proofs.Switcher.FailedLaunches
import TaskSwitcher.Proofs.Registry.Families
import TaskSwitcher.Proofs.Switcher.Expiry
import TaskSwitcher.Proofs.Switcher.Families
import TaskSwitcher.Proofs.Scenario.Acts
import TaskSwitcher.Proofs.Switcher.Cards
import TaskSwitcher.Proofs.Switcher.Replies
import TaskSwitcher.Proofs.Switcher.Commands
import TaskSwitcher.Proofs.Switcher.Sizes
import TaskSwitcher.Proofs.Session.Sizes
import TaskSwitcher.Proofs.Switcher.Parentage
import TaskSwitcher.Proofs.Registry.Echoes
import TaskSwitcher.Proofs.Switcher.Synchrony
import TaskSwitcher.Proofs.AppDirectory.Recognition
import TaskSwitcher.Proofs.AppDirectory.Enumeration
import TaskSwitcher.Proofs.Switcher.Directories
import TaskSwitcher.Proofs.Text.Blank
import TaskSwitcher.Proofs.AppDirectory.Canonical
import TaskSwitcher.Proofs.Carousel.Drawing
import TaskSwitcher.Proofs.Switcher.Drawing
import TaskSwitcher.Proofs.Registry.Order
