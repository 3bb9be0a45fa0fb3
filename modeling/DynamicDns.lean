import DynamicDns.Main
import DynamicDns.Proofs.Alike
import DynamicDns.Proofs.Utf8
import DynamicDns.Proofs.Form
import DynamicDns.Proofs.Address
import DynamicDns.Proofs.JsonText
import DynamicDns.Proofs.Field
import DynamicDns.Proofs.Round
import DynamicDns.Proofs.Numeral
import DynamicDns.Proofs.Segment
import DynamicDns.Proofs.DigitalOcean.Answer
import DynamicDns.Proofs.DigitalOcean.Request
import DynamicDns.Proofs.DigitalOcean.Update
import DynamicDns.Proofs.DigitalOcean.Guard
import DynamicDns.Proofs.DigitalOcean.Confirmation
import DynamicDns.Proofs.DigitalOcean.Echo
import DynamicDns.Proofs.DigitalOcean.Naming
import DynamicDns.Proofs.Namecheap.Update
import DynamicDns.Proofs.Namecheap.Echo
import DynamicDns.Proofs.Script
import DynamicDns.Proofs.Kinds
import DynamicDns.Proofs.Cancellation
import DynamicDns.Proofs.Making
import DynamicDns.Proofs.Configuration
import DynamicDns.Proofs.Secrecy
import DynamicDns.Proofs.Namecheap.Document
import DynamicDns.Proofs.Publication
import DynamicDns.Proofs.Interleaving
import DynamicDns.Proofs.Conduct
import DynamicDns.Proofs.Requests
import DynamicDns.Proofs.Command.Loading
import DynamicDns.Proofs.Command.ExitCode
import DynamicDns.Proofs.Command.Family
import DynamicDns.Proofs.Steady
import DynamicDns.Proofs.Command.Order
import DynamicDns.Proofs.Place
import DynamicDns.Proofs.DigitalOcean.Place
import DynamicDns.Proofs.Parameters
import DynamicDns.Proofs.DigitalOcean.Agreement
import DynamicDns.Proofs.Construction
import DynamicDns.Proofs.Acceptance
import DynamicDns.Proofs.Refusal
import DynamicDns.Proofs.WrittenNumber
import DynamicDns.Proofs.Members
import DynamicDns.Proofs.WrittenJson
import DynamicDns.Proofs.RoundTrip
import DynamicDns.Proofs.DigitalOcean.Listing
import DynamicDns.Proofs.Validation
import DynamicDns.Proofs.OwnFamily
import DynamicDns.Proofs.Blank
import DynamicDns.Proofs.XmlText
import DynamicDns.Proofs.WrittenXml
import DynamicDns.Proofs.Namecheap.Layout
import DynamicDns.Proofs.OneLine
import DynamicDns.Proofs.Wording
import DynamicDns.Proofs.LineBreak
import DynamicDns.Proofs.Command.Environment
import DynamicDns.Proofs.Snippet
import DynamicDns.Proofs.LastWrite
import DynamicDns.Proofs.Headers
import DynamicDns.Proofs.Registry
import DynamicDns.Proofs.Stages
