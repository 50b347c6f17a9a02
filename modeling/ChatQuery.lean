import ChatQuery.Gateway.Scripted
import ChatQuery.History.Scripted
import ChatQuery.Main
import ChatQuery.Text.Shown
import ChatQuery.Files.Tree
import ChatQuery.Proofs.Gateway.Reading
import ChatQuery.Proofs.Script.Identifiers
import ChatQuery.Proofs.Script.Objects
import ChatQuery.Proofs.Session.Selection
import ChatQuery.Proofs.Statement.Groups
import ChatQuery.Proofs.Token.Tiling
import ChatQuery.Proofs.Script.Layout
import ChatQuery.Proofs.Compile.Generators
import ChatQuery.Proofs.Script.Complaints
import ChatQuery.Proofs.Session.Errors
import ChatQuery.Proofs.Gateway.Requests
import ChatQuery.Proofs.Gateway.Numbering
import ChatQuery.Proofs.Compile.Subscriptions
import ChatQuery.Proofs.Gateway.Delivery
import ChatQuery.Proofs.Session.Reload
import ChatQuery.Proofs.Compile.Bodies
import ChatQuery.Proofs.Session.Pieces
import ChatQuery.Proofs.Compile.Order
import ChatQuery.Proofs.Session.Startup
import ChatQuery.Proofs.Session.Sending
import ChatQuery.Proofs.Gateway.Windows
import ChatQuery.Proofs.Statement.Strays
import ChatQuery.Proofs.Statement.Silent
import ChatQuery.Proofs.Compile.Edits
import ChatQuery.Proofs.Gateway.Anchors
import ChatQuery.Proofs.History.Protocol
import ChatQuery.Proofs.Gateway.Fetching
import ChatQuery.Proofs.Compile.Blame
import ChatQuery.Proofs.Compile.Arrangement
import ChatQuery.Proofs.Script.Messages
import ChatQuery.Proofs.Script.Unread
import ChatQuery.Proofs.Token.Objects
import ChatQuery.Proofs.Gateway.Comparing
import ChatQuery.Proofs.Script.CallList
import ChatQuery.Proofs.Json.Printed
import ChatQuery.Proofs.Files.Tree
import ChatQuery.Proofs.Settings.Saved
