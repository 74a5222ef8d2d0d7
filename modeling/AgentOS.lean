import AgentOS.Kernel.Budget
import AgentOS.Kernel.Commands
import AgentOS.Kernel.Resolution
import AgentOS.Kernel.RetryStorm
import AgentOS.Security.Padding
import AgentOS.Security.QuietWindow
import AgentOS.Security.Spending
import AgentOS.Policies.WorkspacePatterns
import AgentOS.Database.RunMap
import AgentOS.Governance.Atomicity
import AgentOS.Governance.McpServer
import AgentOS.Governance.Merges
import AgentOS.Governance.Restarts
import AgentOS.Governance.Starvation
import AgentOS.Sandbox.MemoryLimit
import AgentOS.Sandbox.Preflight
import AgentOS.Workflow.Timeliness
import AgentOS.Adapters.LarkClient
import AgentOS.Service.Dashboard
import AgentOS.Service.PendingCards
import AgentOS.Service.RunLives
import AgentOS.Service.SameDecision
import AgentOS.Service.Sessions
