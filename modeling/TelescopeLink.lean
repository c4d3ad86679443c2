import TelescopeLink.Main
import TelescopeLink.Proofs.Bridge.Containment
import TelescopeLink.Proofs.Bridge.Delivery
import TelescopeLink.Proofs.Bridge.Independence
import TelescopeLink.Proofs.Bridge.LateReply
import TelescopeLink.Proofs.Bridge.Ownership
import TelescopeLink.Proofs.Bridge.Stream
import TelescopeLink.Proofs.Bridge.Submission
import TelescopeLink.Proofs.Bridge.WireText
import TelescopeLink.Proofs.Dialect.Rendering
import TelescopeLink.Proofs.Message.Datagram
import TelescopeLink.Proofs.Reception
import TelescopeLink.Proofs.Service.Conservation
import TelescopeLink.Proofs.Registry.FirstFree
import TelescopeLink.Proofs.Waiting
import TelescopeLink.Proofs.Reception.Loop
import TelescopeLink.Proofs.Text.Blank
import TelescopeLink.Proofs.Text.Decimal
import TelescopeLink.Proofs.Toml.Text
import TelescopeLink.Proofs.Toml.Document
import TelescopeLink.Proofs.Toml.Table
import TelescopeLink.Proofs.Toml.Regular
import TelescopeLink.Proofs.Settings.Reload
import TelescopeLink.Proofs.Dialect.Reply
import TelescopeLink.Proofs.Bridge.Outcomes
import TelescopeLink.Proofs.Dialect.Wording
import TelescopeLink.Proofs.Binary64.Accuracy
import TelescopeLink.Proofs.Binary64.Places
import TelescopeLink.Proofs.Binary64.Angle
import TelescopeLink.Proofs.Dialect.Slew
import TelescopeLink.Proofs.Text.Cut
import TelescopeLink.Proofs.Message.Truncation
import TelescopeLink.Proofs.Bridge.HandlingTime
import TelescopeLink.Proofs.CommandLine.Batch
import TelescopeLink.Proofs.CommandLine.Printing
import TelescopeLink.Proofs.Service.Hearing
import TelescopeLink.Proofs.Service.Caller
