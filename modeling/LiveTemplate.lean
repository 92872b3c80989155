import LiveTemplate.Main
import LiveTemplate.Proofs.Analysis.Completions
import LiveTemplate.Proofs.Analysis.Outcome
import LiveTemplate.Proofs.Analysis.Shaping
import LiveTemplate.Proofs.Debouncer.Survivors
import LiveTemplate.Proofs.Editor.Loading
import LiveTemplate.Proofs.Editor.Rows
import LiveTemplate.Proofs.Editor.View
import LiveTemplate.Proofs.Record.RoundTrip
import LiveTemplate.Proofs.Screen.Cursor
import LiveTemplate.Proofs.Screen.Drawing
import LiveTemplate.Proofs.Screen.Isolation
import LiveTemplate.Proofs.Tool.Classification
import LiveTemplate.Proofs.Viewport.Slice
import LiveTemplate.Proofs.World.Accounting
import LiveTemplate.Proofs.World.BlankTemplate
import LiveTemplate.Proofs.World.DeliveryOrder
import LiveTemplate.Proofs.World.DispatchOrder
import LiveTemplate.Proofs.World.Focus
import LiveTemplate.Proofs.World.Generations
import LiveTemplate.Proofs.World.QuietPeriod
import LiveTemplate.Proofs.World.Scrolling
import LiveTemplate.Proofs.World.Unviewed
import LiveTemplate.Tool.Launch
