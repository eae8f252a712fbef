import Scratchpad.Controller.Rehearsal
import Scratchpad.Host.Program
import Scratchpad.Main
import Scratchpad.Proofs.Catalog.Web
import Scratchpad.Proofs.Controller.Loading
import Scratchpad.Proofs.Controller.Turns
import Scratchpad.Proofs.Session.Editor
import Scratchpad.Proofs.Controller.Editor
import Scratchpad.Proofs.Controller.FirstExample
import Scratchpad.Proofs.Controller.Selection
import Scratchpad.Proofs.Host.Steps
import Scratchpad.Proofs.Host.Delivery
import Scratchpad.Proofs.Json.Render
import Scratchpad.Proofs.Text.Lines
import Scratchpad.Proofs.Host.Isolation
import Scratchpad.Proofs.Session.History
import Scratchpad.Proofs.Session.Lifecycle
import Scratchpad.Proofs.Controller.Start
import Scratchpad.Proofs.Catalog.Plain
import Scratchpad.Proofs.Text.Utf8
import Scratchpad.Proofs.Text.Blank
import Scratchpad.Proofs.Evaluator.Process
import Scratchpad.Proofs.Evaluator.Lookup
import Scratchpad.Proofs.Controller.Failure
import Scratchpad.Proofs.FileSystem.Place
import Scratchpad.Proofs.Catalog.Publication
import Scratchpad.Proofs.Json.Grammar
import Scratchpad.Proofs.Json.Scalar
import Scratchpad.Proofs.Json.Draft
import Scratchpad.Proofs.Json.Parse
import Scratchpad.Proofs.Json.Compact
import Scratchpad.Proofs.Json.Record
import Scratchpad.Proofs.Json.Order
import Scratchpad.Proofs.Wire.RoundTrip
import Scratchpad.Proofs.Host.Framing
import Scratchpad.Proofs.Host.Requests
import Scratchpad.Proofs.Host.Handling
import Scratchpad.Proofs.Catalog.Manifest
import Scratchpad.Proofs.Settings.Layers
import Scratchpad.Proofs.Url.Punycode
import Scratchpad.Proofs.Url.Encode
import Scratchpad.Proofs.Url.Route
import Scratchpad.Proofs.Url.Authority
import Scratchpad.Proofs.Url.Address
import Scratchpad.Proofs.Text.Table
import Scratchpad.Proofs.Url.Domain.Tables
import Scratchpad.Proofs.Url.Domain.Normal
import Scratchpad.Proofs.Url.Domain.Form
import Scratchpad.Proofs.Url.Host
import Scratchpad.Proofs.Url.Render
import Scratchpad.Proofs.Catalog.Root
